import Mathlib.Data.List.TakeWhile
import FlowAudit.Host.Process
import FlowAudit.Proofs.Host.Lookup
import FlowAudit.Proofs.Text.Numeral

/-!
# Processes and their descriptors

A process holds a socket when a descriptor in its directory is a link to it (`Process.holds_iff`). A
descriptor written as the kernel writes it names its socket and no other
(`Process.IsDescriptor.target_eq`). A process that holds anything is listed among the processes
(`Process.mem_pids_of_holds`), for a directory is found only under a name that is listed.
-/

namespace FlowAudit.Process

/-! ### Numbers -/

/-- The numbers that name processes have thirty-two bits. -/
def IsPid (pid : Int) : Prop :=
  -2147483648 ≤ pid ∧ pid ≤ 2147483647

variable {files : FileTree} {proc : Path} {pid : Pid}

theorem number?_toString (h : IsPid pid) : number? (toString pid).toList = some pid :=
  Text.signed?_toString h.1 h.2

/-- A name that reads as a number can be written as a part of a path. -/
theorem isName_of_number? {name : String} (h : number? name.toList = some pid) :
    Path.IsName name := by
  obtain ⟨hne, hchars⟩ := Text.isDigitOf_of_signed? h
  have hnot : ∀ c ∈ name.toList, c ≠ '.' ∧ c ≠ '/' := by
    intro c hc
    rcases hchars c hc with rfl | rfl | hdigit
    · decide
    · decide
    · constructor <;> rintro rfl <;> revert hdigit <;> decide
  refine ⟨?_, ?_, ?_, fun hslash => (hnot '/' hslash).2 rfl⟩
  · rintro rfl
    exact hne rfl
  · rintro rfl
    exact (hnot '.' (by decide)).1 rfl
  · rintro rfl
    exact (hnot '.' (by decide)).1 rfl

theorem pids_of_names {names : List String} (h : files.names proc = .ok names) :
    pids files proc = names.filterMap fun name => number? name.toList := by
  rw [pids, h]

theorem isPid_of_mem_pids (h : pid ∈ pids files proc) : IsPid pid := by
  unfold pids at h
  split at h
  · obtain ⟨name, -, hname⟩ := List.mem_filterMap.mp h
    exact Text.signed?_range hname
  · cases h

/-- Without a sign, the number of a process still fits into thirty-two bits. -/
theorem toNat_ofNat_of_isPid {pid : Int} (hpid : IsPid pid) (hnonneg : 0 ≤ pid) :
    ((UInt32.ofNat pid.toNat).toNat : Int) = pid := by
  have hhigh : pid ≤ 2147483647 := hpid.2
  have hlt : pid.toNat < UInt32.size := by
    rw [UInt32.size]
    omega
  rw [UInt32.toNat_ofNat_of_lt' hlt, Int.toNat_of_nonneg hnonneg]

/-- Processes are listed only below a path that is not empty. -/
theorem ne_empty_of_mem_pids (h : pid ∈ pids files proc) : proc.text ≠ "" := by
  unfold pids at h
  intro hempty
  have hnames : files.names proc = .error .notFound := by
    simp [FileTree.names, FileTree.lookup, hempty, bind, Except.bind]
  rw [hnames] at h
  cases h

theorem mem_pids_of_isDirectory (hpid : IsPid pid) (hproc : proc.text ≠ "")
    (h : files.isDirectory (directory proc pid) = true) : pid ∈ pids files proc := by
  unfold FileTree.isDirectory at h
  split at h
  · rename_i entries hlookup
    obtain ⟨names, hnames, hmem⟩ := FileTree.exists_names_of_lookup_join hproc
      (isName_of_number? (number?_toString hpid)) hlookup
    rw [pids_of_names hnames]
    exact List.mem_filterMap.mpr ⟨toString pid, hmem, number?_toString hpid⟩
  · cases h

/-! ### Descriptors -/

/-- How the kernel writes the target of a descriptor for a socket. -/
def socketLink (inode : UInt64) : String :=
  "socket:[" ++ toString inode.toNat ++ "]"

/-- A descriptor written as the kernel writes it is read as the socket it names. -/
theorem socketInode?_socketLink (inode : UInt64) :
    socketInode? (socketLink inode).toList = some inode := by
  let digits := Nat.toDigits 10 inode.toNat
  have hdigits : (toString inode.toNat).toList = digits := by
    rw [Nat.toString_eq_repr, Nat.toList_repr]
  have hafter : Text.after? "socket:".toList (socketLink inode).toList =
      some ('[' :: (digits ++ [']'])) := by
    rw [socketLink, String.toList_append, String.toList_append, hdigits]
    rfl
  -- no colon stands in the number, so the name is all that follows
  have hname : ('[' :: (digits ++ [']'])).takeWhile (· ≠ ':') = '[' :: (digits ++ [']']) := by
    rw [List.takeWhile_eq_self_iff]
    intro c hc
    have hcolon : ':' ∉ digits := fun h =>
      absurd (Nat.isDigit_of_mem_toDigits (b := 10) (by omega) (by omega) h) (by decide)
    have hne : c ≠ ':' := by
      rintro rfl
      simp [hcolon] at hc
    simpa using hne
  have hsize : ¬ (String.ofList ('[' :: (digits ++ [']']))).utf8ByteSize ≤ 2 := by
    have hpos : (String.ofList digits).utf8ByteSize ≠ 0 := by
      rw [Ne, String.utf8ByteSize_eq_zero_iff, String.ofList_eq_empty_iff]
      exact Nat.toDigits_ne_nil
    rw [String.ofList_cons, String.ofList_append, String.utf8ByteSize_append,
      String.utf8ByteSize_append, String.utf8ByteSize_singleton, String.ofList_cons,
      String.utf8ByteSize_append, String.utf8ByteSize_singleton]
    have hopen := Char.utf8Size_pos '['
    have hclose := Char.utf8Size_pos ']'
    omega
  have hread : Text.unsigned? 10 (Text.maxOfBits 64) digits = some inode.toNat := by
    have hlt : inode.toNat ≤ Text.maxOfBits 64 := Nat.le_pred_of_lt inode.toNat_lt
    rw [← hdigits]
    exact Text.unsigned?_toString hlt
  rw [socketInode?, hafter]
  simp only [Option.bind_eq_bind, Option.bind_some, hname, hsize, if_false, List.drop_succ_cons,
    List.drop_zero, List.dropLast_concat, hread]
  rw [UInt64.ofNat_toNat]
  rfl

/-- A descriptor of the process that is a link to a socket. -/
structure IsDescriptor (files : FileTree) (proc : Path) (pid : Pid) (inode : UInt64)
    (name target : String) : Prop where
  listed : ∃ names, files.names ((directory proc pid).join "fd") = .ok names ∧ name ∈ names
  number : (number? name.toList).isSome = true
  link : files.linkTarget? (((directory proc pid).join "fd").join name) = some target
  socket : socketInode? target.toList = some inode

/-- Of the targets that the kernel writes, a descriptor has that of its socket. -/
theorem IsDescriptor.target_eq {inode other : UInt64} {name target : String}
    (h : IsDescriptor files proc pid inode name target) (htarget : target = socketLink other) :
    target = socketLink inode := by
  have hsocket := h.socket
  rw [htarget, socketInode?_socketLink] at hsocket
  rw [htarget, Option.some.inj hsocket]

/-- The sockets of a process are those that its descriptors are linked to. -/
theorem mem_sockets?_iff {inodes : List UInt64} (h : sockets? files proc pid = some inodes)
    (inode : UInt64) :
    inode ∈ inodes ↔ ∃ name target, IsDescriptor files proc pid inode name target := by
  obtain ⟨names, hnames, hinodes⟩ := Option.bind_eq_some_iff.mp h
  replace hnames : files.names ((directory proc pid).join "fd") = .ok names := by
    revert hnames
    cases files.names ((directory proc pid).join "fd") with
    | error e => exact nofun
    | ok names' => exact fun h => congrArg Except.ok (Option.some.inj h)
  obtain rfl := Option.some.inj hinodes
  rw [List.mem_filterMap]
  constructor
  · rintro ⟨name, hmem, hread⟩
    obtain ⟨n, hnumber, hread⟩ := Option.bind_eq_some_iff.mp hread
    obtain ⟨target, hlink, hsocket⟩ := Option.bind_eq_some_iff.mp hread
    refine ⟨name, target, ⟨names, hnames, hmem⟩, ?_, hlink, hsocket⟩
    rw [hnumber, Option.isSome_some]
  · rintro ⟨name, target, hdescriptor⟩
    obtain ⟨names', hlisted, hmem⟩ := hdescriptor.listed
    obtain rfl := Except.ok.inj (hnames.symm.trans hlisted)
    obtain ⟨n, hn⟩ := Option.isSome_iff_exists.mp hdescriptor.number
    refine ⟨name, hmem, ?_⟩
    rw [hn, Option.bind_eq_bind, Option.bind_some, hdescriptor.link, Option.bind_eq_bind,
      Option.bind_some, hdescriptor.socket]

theorem holds_iff {inode : UInt64} : holds files proc pid inode = true ↔
    files.isDirectory (directory proc pid) = true ∧
      ∃ name target, IsDescriptor files proc pid inode name target := by
  constructor
  · intro h
    unfold holds at h
    split at h
    · rename_i inodes hsockets
      rw [Bool.and_eq_true, List.contains_iff_mem, mem_sockets?_iff hsockets] at h
      exact h
    · cases h
  · rintro ⟨hdirectory, name, target, hdescriptor⟩
    obtain ⟨names, hnames, -⟩ := hdescriptor.listed
    obtain ⟨inodes, hsockets⟩ : ∃ inodes, sockets? files proc pid = some inodes := by
      rw [sockets?, hnames]
      exact ⟨_, Option.bind_some _ _⟩
    have hmem : inode ∈ inodes := (mem_sockets?_iff hsockets inode).mpr ⟨name, target, hdescriptor⟩
    unfold holds
    rw [hsockets]
    simp [hdirectory, hmem]

/-! ### Holders -/

/-- The first of all processes that holds the socket with the given inode. -/
def firstHolder? (files : FileTree) (proc : Path) (inode : UInt64) : Option Pid :=
  (pids files proc).find? fun pid => holds files proc pid inode

/-- A process that is found is listed and holds the inode. -/
theorem holder?_spec {limit : Nat} {inode : UInt64} (h : holder? files proc limit inode = some pid) :
    pid ∈ pids files proc ∧ holds files proc pid inode = true :=
  ⟨List.mem_of_mem_take (List.mem_of_find?_eq_some h),
    List.find?_some (p := fun pid => holds files proc pid inode) h⟩

/-- A limit that is not below the number of processes changes nothing. -/
theorem holder?_eq_firstHolder? {limit : Nat} (hlimit : (pids files proc).length ≤ limit)
    (inode : UInt64) : holder? files proc limit inode = firstHolder? files proc inode := by
  rw [holder?, firstHolder?, List.take_of_length_le hlimit]

theorem firstHolder?_spec {inode : UInt64} (h : firstHolder? files proc inode = some pid) :
    pid ∈ pids files proc ∧ holds files proc pid inode = true := by
  rw [← holder?_eq_firstHolder? (Nat.le_refl _)] at h
  exact holder?_spec h

theorem isSome_firstHolder? {inode : UInt64} (hmem : pid ∈ pids files proc)
    (hholds : holds files proc pid inode = true) : (firstHolder? files proc inode).isSome = true :=
  List.find?_isSome.mpr ⟨pid, hmem, hholds⟩

theorem mem_pids_of_holds {inode : UInt64} (hpid : IsPid pid) (hproc : proc.text ≠ "")
    (h : holds files proc pid inode = true) : pid ∈ pids files proc :=
  mem_pids_of_isDirectory hpid hproc (holds_iff.mp h).1

end FlowAudit.Process
