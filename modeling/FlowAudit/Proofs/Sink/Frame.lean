import FlowAudit.Proofs.Json
import FlowAudit.Sink

/-!
# Lines apart

On a stream every line stands behind its length in octets. Whoever reads a length up to the first
blank, then that many octets, and so on to the end, gets all lines back (`readLines?_frames`),
whatever they hold: what is read next depends on how long a line is and never on what is in it.

Where lines are set apart by line feeds instead, the line of a record is still one line, since it
holds no octet below that of the blank (`isPlain_line`). What a process is called goes into the text
of a JSON string, where controls are escaped. `lines_apart` holds both.
-/

namespace FlowAudit.Sink

open Text (octets textOf? octets_append length_octets textOf?_octets mem_of_mem_octets IsPlain
  isPlain_toString)

/-! ### Reading frames -/

/-- Reads a length in decimal up to the first blank and then as many octets. What is left is what
follows them. -/
def readFrame? (stream : List UInt8) : Option (List UInt8 × List UInt8) := do
  let (front, rest) := stream.span (· ≠ 0x20)
  let length ← Text.ofDigits? 10 (← textOf? front).toList
  match rest with
  | [] => none
  | _ :: rest => if length ≤ rest.length then some (rest.splitAt length) else none

/-- A frame takes up at least one octet. -/
theorem length_lt_of_readFrame? {stream line rest : List UInt8}
    (h : readFrame? stream = some (line, rest)) : rest.length < stream.length := by
  unfold readFrame? at h
  rw [List.span_eq_takeWhile_dropWhile] at h
  obtain ⟨front, -, h⟩ := Option.bind_eq_some_iff.mp h
  obtain ⟨length, -, h⟩ := Option.bind_eq_some_iff.mp h
  have hle := (List.dropWhile_suffix (l := stream) (· ≠ 0x20)).length_le
  split at h
  · cases h
  · rename_i back hback
    rw [hback, List.length_cons] at hle
    split at h
    · rw [List.splitAt_eq] at h
      obtain ⟨-, rfl⟩ := Prod.mk.inj (Option.some.inj h)
      rw [List.length_drop]
      omega
    · cases h

/-- Reads frames to the end of a stream. -/
def readFrames? (stream : List UInt8) : Option (List (List UInt8)) :=
  if stream.isEmpty then some []
  else
    match _h : readFrame? stream with
    | none => none
    | some (line, rest) => (readFrames? rest).map (line :: ·)
termination_by stream.length
decreasing_by exact length_lt_of_readFrame? _h

/-- Reads the texts in the frames of a stream. -/
def readLines? (stream : List UInt8) : Option (List String) :=
  (readFrames? stream).bind (·.mapM textOf?)

/-! ### Reading what was framed -/

/-- The first frame of a stream is read, whatever it holds and whatever follows. -/
theorem readFrame?_append (line : String) (rest : List UInt8) :
    readFrame? (octets (octetFrame line) ++ rest) = some (octets line, rest) := by
  have hlength : ∀ o ∈ octets (toString line.utf8ByteSize), (decide (o ≠ 0x20)) = true := by
    intro o ho
    rw [decide_eq_true_eq]
    rintro rfl
    have hblank : ' ' ∈ (toString line.utf8ByteSize).toList :=
      mem_of_mem_octets (by decide) ho
    exact absurd (Ipv4.isDigit_of_mem_toString hblank) (by decide)
  have hframe : octets (octetFrame line) ++ rest =
      octets (toString line.utf8ByteSize) ++ 0x20 :: (octets line ++ rest) := by
    rw [octetFrame, octets_append, octets_append, List.append_assoc, List.append_assoc]
    rfl
  have hdigits : Text.ofDigits? 10 (toString line.utf8ByteSize).toList =
      some line.utf8ByteSize := by
    rw [Nat.toString_eq_repr, Nat.toList_repr, Text.ofDigits?_toDigits]
  have hspan : (octets (toString line.utf8ByteSize) ++ 0x20 :: (octets line ++ rest)).span
      (· ≠ 0x20) = (octets (toString line.utf8ByteSize), 0x20 :: (octets line ++ rest)) := by
    rw [List.span_eq_takeWhile_dropWhile, List.takeWhile_append_of_pos hlength,
      List.dropWhile_append_of_pos hlength]
    simp
  rw [readFrame?, hframe, hspan]
  simp only [textOf?_octets, hdigits, Option.bind_eq_bind, Option.bind_some]
  rw [if_pos (by rw [List.length_append, length_octets]; exact Nat.le_add_right _ _),
    List.splitAt_eq, ← length_octets, List.take_left, List.drop_left]

theorem octetFrame_ne_nil (line : String) (rest : List UInt8) :
    octets (octetFrame line) ++ rest ≠ [] := by
  intro h
  have hframe := readFrame?_append line rest
  have hlt := length_lt_of_readFrame? hframe
  rw [h] at hlt
  exact absurd hlt (Nat.not_lt_zero _)

theorem readFrames?_frames (lines : List String) :
    readFrames? (octets (String.join (lines.map octetFrame))) = some (lines.map octets) := by
  induction lines with
  | nil =>
    rw [List.map_nil, String.join_nil, readFrames?]
    rfl
  | cons line lines ih =>
    rw [List.map_cons, String.join_cons, octets_append, readFrames?,
      if_neg (by simpa using octetFrame_ne_nil line _)]
    split
    · rename_i h
      rw [readFrame?_append] at h
      cases h
    · rename_i h
      rw [readFrame?_append] at h
      obtain ⟨rfl, rfl⟩ := Prod.mk.inj (Option.some.inj h)
      rw [ih, Option.map_some, List.map_cons]

/-- All lines are read back, however many there are and whatever they hold. -/
theorem readLines?_frames (lines : List String) :
    readLines? (octets (String.join (lines.map octetFrame))) = some lines := by
  have htexts : (lines.map octets).mapM textOf? = some lines := by
    induction lines with
    | nil => rfl
    | cons line lines ih =>
      rw [List.map_cons, List.mapM_cons, ih, textOf?_octets]
      rfl
  rw [readLines?, readFrames?_frames, Option.bind_some, htexts]

/-! ### One line for a record -/

/-- The months as lines name them. -/
def monthNames : List String :=
  ["Jan", "Feb", "Mar", "Apr", "May", "Jun", "Jul", "Aug", "Sep", "Oct", "Nov", "Dec"]

/-- Whether a text is a time as lines show it, `Mmm dd hh:mm:ss`. A day of one digit may stand behind
a zero or a blank. -/
def IsLineTime (time : String) : Prop :=
  ∃ month ∈ monthNames, ∃ d₁ d₂ h₁ h₂ m₁ m₂ s₁ s₂ : Char, (d₁ = ' ' ∨ d₁.isDigit = true) ∧
    [d₂, h₁, h₂, m₁, m₂, s₁, s₂].Forall (·.isDigit = true) ∧
    time.toList = month.toList ++ [' ', d₁, d₂, ' ', h₁, h₂, ':', m₁, m₂, ':', s₁, s₂]

theorem isPlain_time {time : String} (h : IsLineTime time) : IsPlain time := by
  obtain ⟨month, hmonth, d₁, d₂, h₁, h₂, m₁, m₂, s₁, s₂, hday, hdigits, htime⟩ := h
  have hnames : ∀ month ∈ monthNames, IsPlain month := by decide
  have hplain {c : Char} (hc : c.isDigit = true) : 0x20 ≤ c.toNat :=
    Text.of_isDigit (p := (0x20 ≤ Char.toNat ·)) (by decide) hc
  have hfirst : 0x20 ≤ d₁.toNat := hday.elim (fun h => h ▸ by decide) hplain
  simp only [List.Forall] at hdigits
  rw [IsPlain, htime, List.forall_mem_append]
  refine ⟨hnames month hmonth, ?_⟩
  simp only [List.forall_mem_cons, hplain, hdigits, hfirst, List.not_mem_nil, false_implies,
    implies_true, and_true, true_and]
  decide

/-- A line is plain if what is put into it is. -/
theorem isPlain_syslogLine {time host message : String} (htime : IsPlain time)
    (hhost : IsPlain host) (hmessage : IsPlain message) (pid : Nat) (phase : Phase) :
    IsPlain (syslogLine time host pid phase message) := by
  have hfixed {s t : String} (hs : IsPlain s) (ht : t.toList.Forall (0x20 ≤ Char.toNat ·)) :
      IsPlain (s ++ t) :=
    hs.append (List.forall_iff_forall_mem.mp ht)
  have hopen : IsPlain "<" := by decide
  have hpriority := hfixed (hopen.append (isPlain_toString (priority phase))) (t := ">") (by decide)
  have hheader := hfixed ((hfixed (hpriority.append htime) (t := " ") (by decide)).append hhost)
    (t := " ") (by decide)
  have hprogram := hfixed (hfixed hheader (t := programName) (by decide)) (t := "[") (by decide)
  exact (hfixed (hprogram.append (isPlain_toString pid)) (by decide)).append hmessage

/-- The line of a record holds no control, whatever its process is called. -/
theorem isPlain_line {around : Surroundings} (htime : IsLineTime around.time)
    (hhost : IsPlain around.host) (r : Record) : IsPlain ((Message.ofRecord r).line around) :=
  isPlain_syslogLine (isPlain_time htime) hhost r.toJson.isPlain_render around.pid r.phase

/-- Lines on a stream stay apart whatever they hold, and the line of a record holds no octet below
that of the blank, so it is one line. -/
theorem lines_apart :
    (∀ lines : List String,
      readLines? (octets (String.join (lines.map octetFrame))) = some lines) ∧
    ∀ (r : Record) (around : Surroundings), IsLineTime around.time →
      (∀ c ∈ around.host.toList, 0x20 ≤ c.toNat) →
      ∀ o ∈ octets ((Message.ofRecord r).line around), 0x20 ≤ o :=
  ⟨readLines?_frames, fun r _ htime hhost _ ho => (isPlain_line htime hhost r).le_of_mem_octets ho⟩

/-- A record whose process is called so that its name ends a line and starts one that looks like
another record, quoted, with a null character and a letter of two octets. -/
def deceptive : Record :=
  { (default : Record) with
    phase := .opened
    owner := some ⟨0, { (default : Attribution) with
      processName := "sh\n<14>Jan  1 00:00:00 host sshd[1]: \"é\x00"
      commandLine := ["sh\r", "\x1b[2K"]
      username := some "root\t" }⟩ }

/-- The surroundings of a sink at the start of a year. -/
def newYear : Surroundings :=
  ⟨default, .silent, "Jan  1 00:00:00", "büro", 7⟩

theorem lines_apart_of_deceptive :
    (∃ o ∈ deceptive.owner, '\n' ∈ o.process.processName.toList) ∧
      (let line := (Message.ofRecord deceptive).line newYear
       let lines := [line, "", "12 ab\n", " ", "größer"]
       readLines? (octets (String.join (lines.map octetFrame))) = some lines ∧
         ∀ o ∈ octets line, 0x20 ≤ o) := by
  have htime : IsLineTime newYear.time :=
    ⟨"Jan", by decide, ' ', '1', '0', '0', '0', '0', '0', '0', .inl rfl, by decide, rfl⟩
  have hhost : IsPlain newYear.host := by decide
  exact ⟨⟨_, rfl, by decide⟩, lines_apart.1 _, lines_apart.2 deceptive newYear htime hhost⟩

end FlowAudit.Sink
