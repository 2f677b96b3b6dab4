import Mathlib.Data.List.Basic
import FlowAudit.Host.FileTree

/-!
# What is found below a directory

What stands at a place is found there (`FileTree.lookup_of_at?`). The other way round, whatever a
path leads to below a directory is listed in that directory
(`FileTree.exists_names_of_lookup_join`). On its way a path may go through links, and the links that
were followed to reach the directory count for what is below it too: `FileTree.walk_append` splits a
walk at the directory.
-/

namespace FlowAudit

/-! ### Paths -/

namespace Path

theorem partsFrom_append_slash (pending s rest : List Char) :
    partsFrom pending (s ++ '/' :: rest) = partsFrom pending s ++ partsFrom [] rest := by
  induction s generalizing pending with
  | nil => rfl
  | cons c s ih =>
    by_cases hc : c = '/'
    · subst hc
      rw [List.cons_append, partsFrom, partsFrom, ih, List.cons_append]
    · rw [List.cons_append, partsFrom, partsFrom, ih]
      · exact hc
      · exact hc

/-- A text without slashes is one part. -/
theorem partsFrom_of_notMem {s : List Char} (hs : '/' ∉ s) (pending : List Char) :
    partsFrom pending s = [String.ofList (pending.reverse ++ s)] := by
  induction s generalizing pending with
  | nil => rw [List.append_nil, partsFrom]
  | cons c s ih =>
    rw [List.mem_cons, not_or] at hs
    rw [partsFrom, ih hs.2, List.reverse_cons, List.append_assoc, List.singleton_append]
    exact Ne.symm hs.1

/-- A name in a directory that can be written as a part of a path. -/
structure IsName (name : String) : Prop where
  ne_empty : name ≠ ""
  ne_dot : name ≠ "."
  ne_dots : name ≠ ".."
  slash_notMem : '/' ∉ name.toList

theorem IsName.toList_ne_nil {name : String} (h : IsName name) : name.toList ≠ [] :=
  fun hn => h.ne_empty (String.toList_eq_nil_iff.mp hn)

variable {p : Path} {name : String}

/-- The text of a path below a directory goes on where the text of the directory ends. -/
theorem text_join (hname : IsName name) :
    (p.join name).text =
      if p.text = "" || p.endsInSlash then p.text ++ name else p.text ++ ("/" ++ name) := by
  have hhead : name.toList.head? ≠ some '/' := fun h =>
    hname.slash_notMem (List.mem_of_mem_head? h)
  rw [join, if_neg hhead]
  split
  · rfl
  · exact String.append_assoc ..

/-- The name stands behind a slash, and in front of the slash are the parts of the directory. -/
theorem exists_toList_join (hp : p.text ≠ "") (hname : IsName name) :
    ∃ front, (p.join name).text.toList = front ++ '/' :: name.toList ∧
      p.parts = (partsFrom [] front).filter (· ≠ "") := by
  rw [text_join hname]
  by_cases hslash : p.endsInSlash = true
  · obtain ⟨front, hfront⟩ : ∃ front, p.text.toList = front ++ ['/'] := by
      rw [endsInSlash, decide_eq_true_eq] at hslash
      exact List.getLast?_eq_some_iff.mp hslash
    refine ⟨front, by simp [hslash, hfront], ?_⟩
    -- the slash at the end leaves an empty part behind it
    rw [parts, hfront, partsFrom_append_slash, List.filter_append, partsFrom]
    simp
  · exact ⟨p.text.toList, by simp [hp, hslash], rfl⟩

theorem parts_join (hp : p.text ≠ "") (hname : IsName name) :
    (p.join name).parts = p.parts ++ [name] := by
  obtain ⟨front, htext, hparts⟩ := exists_toList_join hp hname
  rw [parts, htext, partsFrom_append_slash, List.filter_append, ← hparts,
    partsFrom_of_notMem hname.slash_notMem]
  simp [hname.ne_empty]

theorem endsInSlash_join (hp : p.text ≠ "") (hname : IsName name) :
    (p.join name).endsInSlash = false := by
  obtain ⟨front, htext, -⟩ := exists_toList_join hp hname
  have hlast : (p.join name).text.toList.getLast? = name.toList.getLast? := by
    rw [htext, List.getLast?_append_of_ne_nil _ (List.cons_ne_nil _ _), List.getLast?_cons,
      List.getLast?_eq_some_getLast hname.toList_ne_nil]
    simp
  rw [endsInSlash, hlast, decide_eq_false_iff_not]
  exact fun h => hname.slash_notMem (List.mem_of_getLast? h)

end Path

namespace FileTree

/-! ### Walks -/

theorem at?_append (t : FileTree) (a b : List String) :
    t.at? (a ++ b) = (t.at? a).bind fun child => child.at? b := by
  induction a generalizing t with
  | nil => rfl
  | cons name a ih =>
    cases t with
    | directory entries =>
      cases hlookup : entries.lookup name with
      | none => simp [at?, hlookup]
      | some child => simp [at?, hlookup, ih]
    | file => rfl
    | link => rfl
    | socket => rfl

/-- Only a directory has something below it, and lists it. -/
theorem exists_entries_of_at? {t : FileTree} {place rest : List String} {name : String}
    (h : t.at? (place ++ name :: rest) ≠ none) :
    ∃ entries, t.at? place = some (.directory entries) ∧ name ∈ entries.map Prod.fst := by
  rw [at?_append] at h
  obtain ⟨found, hfound⟩ : ∃ found, t.at? place = some found := by
    cases hplace : t.at? place with
    | none => simp [hplace] at h
    | some found => exact ⟨found, rfl⟩
  rw [hfound, Option.bind_some] at h
  cases found with
  | directory entries =>
    refine ⟨entries, hfound, ?_⟩
    by_contra hname
    have hlookup : entries.lookup name = none := by
      rw [List.lookup_eq_none_iff]
      intro e he
      simpa using fun heq : name = e.1 => hname (heq ▸ List.mem_map_of_mem he)
    simp [at?, hlookup] at h
  | file => simp [at?] at h
  | link => simp [at?] at h
  | socket => simp [at?] at h

section Walk

variable {t : FileTree} {toEnd : Bool} {links : Nat} {place rest q : List String} {name : String}

theorem walk_dot : t.walk toEnd links place ("." :: rest) = t.walk toEnd links place rest := by
  rw [walk, if_pos rfl]

theorem walk_dots :
    t.walk toEnd links place (".." :: rest) = t.walk toEnd links place.dropLast rest := by
  rw [walk, if_neg (by decide), if_pos rfl]

variable (hdot : name ≠ ".") (hdots : name ≠ "..")
include hdot hdots

/-- A walk goes on only where something stands. -/
theorem exists_at?_of_walk (h : t.walk toEnd links place (name :: rest) = .ok q) :
    ¬ name.utf8ByteSize > maxName ∧ ∃ found, t.at? (place ++ [name]) = some found := by
  rw [walk, if_neg hdot, if_neg hdots] at h
  by_cases hlong : name.utf8ByteSize > maxName
  · simp [hlong] at h
  · refine ⟨hlong, ?_⟩
    cases hfound : t.at? (place ++ [name]) with
    | none => simp [hlong, hfound] at h
    | some found => exact ⟨found, rfl⟩

theorem walk_directory (hlong : ¬ name.utf8ByteSize > maxName) {entries}
    (hat : t.at? (place ++ [name]) = some (.directory entries)) :
    t.walk toEnd links place (name :: rest) = t.walk toEnd links (place ++ [name]) rest := by
  rw [walk, if_neg hdot, if_neg hdots, if_neg hlong, hat]

/-- A link on the way, or at an end that is followed, is replaced by the names of its target. -/
theorem walk_link (hlong : ¬ name.utf8ByteSize > maxName) {target : String}
    (hat : t.at? (place ++ [name]) = some (.link target)) (htarget : target ≠ "")
    (hon : ¬ (decide (rest = []) && !toEnd) = true) :
    t.walk toEnd (links + 1) place (name :: rest) =
      t.walk toEnd links (if Path.isAbsolute ⟨target⟩ then [] else place)
        (steps ⟨target⟩ ++ rest) := by
  rw [walk, if_neg hdot, if_neg hdots, if_neg hlong, hat]
  simp only [if_neg hon, if_neg htarget]

/-- A walk goes on behind directories, and behind links while it may follow them. -/
theorem at?_of_walk_cons (hrest : rest ≠ []) (h : t.walk toEnd links place (name :: rest) = .ok q) :
    (∃ entries, t.at? (place ++ [name]) = some (.directory entries)) ∨
      ∃ target left, t.at? (place ++ [name]) = some (.link target) ∧ target ≠ "" ∧
        links = left + 1 := by
  obtain ⟨hlong, found, hfound⟩ := exists_at?_of_walk hdot hdots h
  rw [walk, if_neg hdot, if_neg hdots, if_neg hlong, hfound] at h
  cases found with
  | directory entries => exact .inl ⟨entries, hfound⟩
  | link target =>
    cases links with
    | zero =>
      simp only [hrest, decide_false, Bool.false_and, Bool.false_eq_true, if_false] at h
      split at h <;> cases h
    | succ left =>
      have htarget : target ≠ "" := fun he => by simp [hrest, he] at h
      exact .inr ⟨target, left, hfound, htarget, rfl⟩
  | file => simp [hrest] at h
  | socket => simp [hrest] at h

end Walk

/-- A walk through `a` and then through `b` goes through `a` first, following every link, and comes
out with the links that are left. A walk that ends at `a` comes to the same place, also when it asks
for a directory there. -/
theorem walk_append {t : FileTree} {toEnd : Bool} {b : List String} (hb : b ≠ []) {links : Nat}
    {place a q : List String} (h : t.walk toEnd links place (a ++ b) = .ok q) :
    ∃ mid left, t.walk true links place a = .ok mid ∧
      t.walk true links place (a ++ ["."]) = .ok mid ∧ t.walk toEnd left mid b = .ok q := by
  match a with
  | [] => exact ⟨place, links, by rw [walk], by rw [List.nil_append, walk_dot, walk], h⟩
  | name :: rest =>
    rw [List.cons_append] at h ⊢
    by_cases hdot : name = "."
    · subst hdot
      rw [walk_dot] at h ⊢
      rw [walk_dot]
      exact walk_append hb h
    by_cases hdots : name = ".."
    · subst hdots
      rw [walk_dots] at h ⊢
      rw [walk_dots]
      exact walk_append hb h
    have hlong := (exists_at?_of_walk hdot hdots h).1
    obtain ⟨entries, hat⟩ | ⟨target, left, hat, htarget, rfl⟩ :=
      at?_of_walk_cons hdot hdots (List.append_ne_nil_of_right_ne_nil _ hb) h
    · rw [walk_directory hdot hdots hlong hat] at h ⊢
      rw [walk_directory hdot hdots hlong hat]
      exact walk_append hb h
    · -- the names of the target come before those that are left, so `a` has grown, but a link is
      -- used up
      rw [walk_link hdot hdots hlong hat htarget (by simp [hb]), ← List.append_assoc] at h
      rw [walk_link hdot hdots hlong hat htarget (by simp),
        walk_link hdot hdots hlong hat htarget (by simp), ← List.append_assoc]
      exact walk_append hb h
termination_by (links, a.length)

/-- A place below which something stands is a directory, so a walk along the names of a place comes
to it, if they are names indeed and no link is followed at the end. -/
theorem walk_of_at? {t : FileTree} {toEnd : Bool} {links : Nat} {found : FileTree} {name : String}
    {names : List String} (place : List String)
    (hnames : ∀ n ∈ names ++ [name], n ≠ "." ∧ n ≠ ".." ∧ ¬ n.utf8ByteSize > maxName)
    (hat : t.at? (place ++ (names ++ [name])) = some found)
    (hend : toEnd = true → ∀ target, found ≠ .link target) :
    t.walk toEnd links place (names ++ [name]) = .ok (place ++ (names ++ [name])) := by
  induction names generalizing place with
  | nil =>
    obtain ⟨hdot, hdots, hlong⟩ := hnames name List.mem_cons_self
    rw [List.nil_append] at hat ⊢
    rw [walk, if_neg hdot, if_neg hdots, if_neg hlong, hat]
    cases found with
    | directory entries => rw [walk]
    | link target =>
      cases toEnd with
      | false => rfl
      | true => exact absurd rfl (hend rfl target)
    | file => rfl
    | socket => rfl
  | cons first rest ih =>
    obtain ⟨hdot, hdots, hlong⟩ := hnames first List.mem_cons_self
    have hsplit : place ++ (first :: rest ++ [name]) = place ++ [first] ++ (rest ++ [name]) := by
      simp
    rw [hsplit] at hat ⊢
    obtain ⟨entries, hentries⟩ :
        ∃ entries, t.at? (place ++ [first]) = some (.directory entries) := by
      obtain ⟨next, others, hnext⟩ := List.exists_cons_of_ne_nil (List.concat_ne_nil name rest)
      rw [hnext] at hat
      obtain ⟨entries, hentries, -⟩ :=
        exists_entries_of_at? (Option.ne_none_iff_exists'.mpr ⟨found, hat⟩)
      exact ⟨entries, hentries⟩
    rw [List.cons_append, walk_directory hdot hdots hlong hentries]
    exact ih _ (fun n hn => hnames n (List.mem_cons_of_mem first hn)) hat

/-! ### Listing -/

/-- What a path has to be like to be looked up at all. -/
structure Admits (p : Path) : Prop where
  nul_notMem : '\x00' ∉ p.text.toList
  ne_empty : p.text ≠ ""
  size_le : p.text.utf8ByteSize ≤ maxPath

instance (p : Path) : Decidable (Admits p) :=
  decidable_of_iff ('\x00' ∉ p.text.toList ∧ p.text ≠ "" ∧ p.text.utf8ByteSize ≤ maxPath)
    ⟨fun h => ⟨h.1, h.2.1, h.2.2⟩, fun h => ⟨h.1, h.2, h.3⟩⟩

variable {files : FileTree} {p : Path} {name : String} {toEnd : Bool} {found : FileTree}

theorem lookup_eq_ok_iff :
    files.lookup p toEnd = .ok found ↔ Admits p ∧ ∃ place,
      files.walk toEnd maxLinks [] (steps p) = .ok place ∧ files.at? place = some found := by
  unfold lookup
  by_cases hnul : '\x00' ∈ p.text.toList
  · simp only [List.contains_eq_mem, hnul, decide_true, if_true]
    exact ⟨nofun, fun h => absurd hnul h.1.nul_notMem⟩
  by_cases hempty : p.text = ""
  · simp only [hempty]
    exact ⟨nofun, fun h => absurd hempty h.1.ne_empty⟩
  by_cases hsize : p.text.utf8ByteSize > maxPath
  · simp only [List.contains_eq_mem, hnul, hempty, hsize, decide_false, Bool.false_eq_true,
      if_false, if_true]
    exact ⟨nofun, fun h => absurd h.1.size_le (Nat.not_le_of_gt hsize)⟩
  simp only [List.contains_eq_mem, hnul, hempty, hsize, decide_false, Bool.false_eq_true, if_false]
  have hadmits : Admits p := ⟨hnul, hempty, Nat.le_of_not_gt hsize⟩
  cases hwalk : files.walk toEnd maxLinks [] (steps p) with
  | error e => simp [bind, Except.bind]
  | ok place =>
    cases hat : files.at? place <;> simp [bind, Except.bind, hadmits, hat]

theorem Admits.of_join (hp : p.text ≠ "") (hname : Path.IsName name) (h : Admits (p.join name)) :
    Admits p := by
  obtain ⟨rest, hrest⟩ : ∃ rest, (p.join name).text = p.text ++ rest := by
    rw [Path.text_join hname]
    split
    · exact ⟨_, rfl⟩
    · exact ⟨_, rfl⟩
  refine ⟨fun hnul => h.nul_notMem ?_, hp, ?_⟩
  · rw [hrest, String.toList_append]
    exact List.mem_append_left _ hnul
  · have hsize := h.size_le
    rw [hrest, String.utf8ByteSize_append] at hsize
    exact Nat.le_trans (Nat.le_add_right _ _) hsize

theorem steps_join (hp : p.text ≠ "") (hname : Path.IsName name) :
    steps (p.join name) = p.parts ++ [name] := by
  rw [steps, Path.endsInSlash_join hp hname, if_neg Bool.false_ne_true, Path.parts_join hp hname]

/-- What stands at the parts of a path is found there, unless it is a link that is followed. -/
theorem lookup_of_at? (names : List String) (name : String) (hadmits : Admits p)
    (hsteps : steps p = names ++ [name])
    (hnames : ∀ n ∈ names ++ [name], n ≠ "." ∧ n ≠ ".." ∧ ¬ n.utf8ByteSize > maxName)
    (hat : files.at? (names ++ [name]) = some found)
    (hend : toEnd = true → ∀ target, found ≠ .link target) :
    files.lookup p toEnd = .ok found :=
  lookup_eq_ok_iff.mpr ⟨hadmits, names ++ [name],
    by rw [hsteps]; exact walk_of_at? [] hnames hat hend, hat⟩

theorem read_of_lookup {octets : ByteArray} (h : files.lookup p true = .ok (.file octets)) :
    files.read p = .ok octets := by
  rw [read, h]
  rfl

/-- A file that holds a text is read as that text. -/
theorem readText_of_lookup {octets : ByteArray} {text : String}
    (h : files.lookup p true = .ok (.file octets)) (htext : String.fromUTF8? octets = some text) :
    files.readText p = .ok text := by
  rw [readText, read_of_lookup h]
  simp only [bind, Except.bind, textOf, htext]

theorem names_of_lookup {entries} (h : files.lookup p true = .ok (.directory entries)) :
    files.names p = .ok (entries.map Prod.fst) := by
  rw [names, h]
  rfl

theorem isDirectory_of_lookup {entries} (h : files.lookup p true = .ok (.directory entries)) :
    files.isDirectory p = true := by
  rw [isDirectory, h]

theorem linkTarget?_of_lookup {target : String} (h : files.lookup p false = .ok (.link target)) :
    files.linkTarget? p = some target := by
  rw [linkTarget?, h]

/-- What is found below a directory is listed in it. -/
theorem exists_names_of_lookup_join (hp : p.text ≠ "") (hname : Path.IsName name)
    (h : files.lookup (p.join name) toEnd = .ok found) :
    ∃ names, files.names p = .ok names ∧ name ∈ names := by
  obtain ⟨hadmits, place, hwalk, hat⟩ := lookup_eq_ok_iff.mp h
  rw [steps_join hp hname] at hwalk
  obtain ⟨mid, left, hmid, hdir, hlast⟩ := walk_append (List.cons_ne_nil _ _) hwalk
  obtain ⟨-, child, hchild⟩ := exists_at?_of_walk hname.ne_dot hname.ne_dots hlast
  obtain ⟨entries, hentries, hlisted⟩ :=
    exists_entries_of_at? (Option.ne_none_iff_exists'.mpr ⟨child, hchild⟩)
  have hsteps : files.walk true maxLinks [] (steps p) = .ok mid := by
    rw [steps]
    split
    · exact hdir
    · exact hmid
  have hlookup : files.lookup p true = .ok (.directory entries) :=
    lookup_eq_ok_iff.mpr ⟨hadmits.of_join hp hname, mid, hsteps, hentries⟩
  exact ⟨entries.map Prod.fst, names_of_lookup hlookup, hlisted⟩

end FileTree

end FlowAudit
