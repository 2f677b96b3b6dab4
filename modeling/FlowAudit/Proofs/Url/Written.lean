import FlowAudit.Proofs.Url.Path

/-!
# URLs that were read

A URL of a web server that was read has a host and is encoded in all its parts (`exists_of_parse`).
So all that is written of it behind its authority counts (`isKept_of_mem_behindAuthority`), and this
holds a mark only if there is a query or a fragment (`isMark_behindAuthority`).
-/

namespace FlowAudit.Url

/-! ### Users -/

theorem isPlain_of_inUserInfo {c : Char} (hc : inUserInfo c = false) : isPlain c = true := by
  rw [← Bool.not_eq_false]
  intro hnot
  have hchar : c ∈ "/\\?#\t\n\r".toList := by
    simp only [isPlain, endsAuthority, isSlash, isKept, Bool.and_eq_false_iff] at hnot
    simp at hnot ⊢
    tauto
  have hall : "/\\?#\t\n\r".toList.Forall (inUserInfo · = true) := by decide
  rw [List.forall_iff_forall_mem.mp hall c hchar] at hc
  cases hc

/-- What holds of the names of a user and of the marks behind them holds of all that is written. -/
theorem of_mem_renderUser {p : Char → Prop} (hmarks : ":@".toList.Forall p) {a : Authority}
    (hname : ∀ c ∈ a.username.toList, p c)
    (hpassword : ∀ password ∈ a.password, ∀ c ∈ password.toList, p c) :
    ∀ c ∈ a.renderUser.toList, p c := by
  obtain ⟨hcolon, hat⟩ := (List.forall_cons _ _ _).mp hmarks
  have hat' : ∀ c ∈ "@".toList, p c := List.forall_iff_forall_mem.mp hat
  have hcolon' : ∀ c ∈ ":".toList, p c := List.forall_iff_forall_mem.mp hcolon
  unfold Authority.renderUser
  split
  · rename_i password hsome
    simp only [String.toList_append, List.forall_mem_append]
    exact ⟨⟨⟨hname, hcolon'⟩, hpassword password hsome⟩, hat'⟩
  · split
    · exact List.forall_mem_nil _
    · rw [String.toList_append, List.forall_mem_append]
      exact ⟨hname, hat'⟩

/-- What is written of a user that was read stays in the authority. -/
theorem isPlain_of_mem_renderUser {scheme : String} {s : List Char} {more : Bool}
    {a : Authority × List Char} (h : parseAuthority scheme .special s more = .ok a) :
    ∀ c ∈ a.1.renderUser.toList, isPlain c = true := by
  obtain ⟨host, port, -, -, rfl⟩ := exists_of_parseAuthority h
  have hencoded {t : List Char} {c : Char} (hc : c ∈ encode inUserInfo t) : isPlain c = true :=
    isPlain_of_inUserInfo (not_set_of_mem_encode (by decide) hc)
  refine of_mem_renderUser (by decide) (fun c hc => ?_) fun password hmem c hc => ?_
  · rw [parseUser, String.toList_ofList] at hc
    exact hencoded hc
  · obtain ⟨t, -, rfl⟩ := Option.map_eq_some_iff.mp hmem
    rw [String.toList_ofList] at hc
    exact hencoded hc

/-! ### Encoded parts -/

/-- Whether what follows the authority of a URL is made of segments that stand for themselves, and
encoded. -/
structure IsEncoded (u : Url) : Prop where
  path : ∃ names, u.path = .segments names ∧ ∀ name ∈ names,
    IsStep name.toList ∧ encode inPath name.toList = name.toList
  query : ∀ query ∈ u.query, ∃ s, query.toList = encode (inQuery true) s
  fragment : ∀ fragment ∈ u.fragment, ∃ s, fragment.toList = encode inFragment s

/-- A URL of a web server that was read has a host, and is encoded. -/
theorem exists_of_parse {text : String} {u : Url} (h : parse text = .ok u)
    (hweb : u.isWeb = true) :
    (∃ a host, u.authority = some a ∧ a.host = some host ∧ host.IsStable ∧
      ∀ c ∈ a.renderUser.toList, isPlain c = true) ∧ u.IsEncoded := by
  obtain ⟨rest, a, -, hread, hu⟩ := exists_of_parse_web h hweb
  obtain ⟨host, port, hhost, -, ha⟩ := exists_of_parseAuthority hread
  exact ⟨⟨a.1, host, hu.authority, by rw [ha], Host.isStable_of_parseSpecial hhost,
      isPlain_of_mem_renderUser hread⟩,
    ⟨⟨_, hu.path, fun name hname => isStep_of_mem_parsePath hname⟩, hu.query, hu.fragment⟩⟩

/-! ### What follows the authority -/

/-- What is written behind the authority. -/
def behindAuthority (u : Url) : String :=
  u.path.render ++ renderPart "?" u.query ++ renderPart "#" u.fragment

/-- What is written of a URL with a host. -/
theorem render_of_authority {u : Url} {a : Authority} (ha : u.authority = some a) :
    u.render.toList =
      u.scheme.toList ++ ':' :: '/' :: '/' :: (a.render.toList ++ u.behindAuthority.toList) := by
  simp [render, renderAuthority, ha, behindAuthority]

theorem endsAuthority_of_head?_behindAuthority {u : Url} {names : List String}
    (hpath : u.path = .segments names) :
    ∀ c ∈ u.behindAuthority.toList.head?, endsAuthority c = true := by
  intro c hc
  rw [behindAuthority, hpath] at hc
  -- the first part that is there starts with a mark
  cases names with
  | cons name names =>
    obtain rfl : '/' = c := by simpa [Path.render, String.join_cons] using hc
    decide
  | nil =>
    cases hquery : u.query with
    | some query =>
      obtain rfl : '?' = c := by simpa [Path.render, renderPart, hquery] using hc
      decide
    | none =>
      cases hfragment : u.fragment with
      | some fragment =>
        obtain rfl : '#' = c := by simpa [Path.render, renderPart, hquery, hfragment] using hc
        decide
      | none => simp [Path.render, renderPart, hquery, hfragment] at hc

theorem toList_render_segments (names : List String) :
    (Path.segments names).render.toList = slashed (names.map String.toList) := by
  induction names with
  | nil => rfl
  | cons name names ih =>
    rw [Path.render] at ih
    rw [Path.render, List.map_cons, String.join_cons, String.toList_append, ih]
    simp [slashed]

theorem toList_behindAuthority {u : Url} {names : List String}
    (hpath : u.path = .segments names) :
    u.behindAuthority.toList = slashed (names.map String.toList) ++
      ((renderPart "?" u.query).toList ++ (renderPart "#" u.fragment).toList) := by
  rw [behindAuthority, hpath, String.toList_append, String.toList_append, toList_render_segments,
    List.append_assoc]

theorem of_mem_slashed {p : Char → Prop} {segments : List (List Char)} (hslash : p '/')
    (h : ∀ s ∈ segments, ∀ c ∈ s, p c) : ∀ c ∈ slashed segments, p c := by
  intro c hc
  obtain ⟨s, hs, hc⟩ := List.mem_flatMap.mp hc
  rcases List.mem_cons.mp hc with rfl | hc
  · exact hslash
  · exact h s hs c hc

/-- Tabs and line ends are encoded everywhere, so what is not encoded counts. -/
theorem isKept_of_not_set {set : Char → Bool} (hset : "\t\n\r".toList.Forall (set · = true))
    {c : Char} (hc : set c = false) : isKept c = true := by
  rw [← Bool.not_eq_false]
  intro hnot
  have hchar : c ∈ "\t\n\r".toList := by
    simp only [isKept, Bool.and_eq_false_iff] at hnot
    simp at hnot ⊢
    tauto
  rw [List.forall_iff_forall_mem.mp hset c hchar] at hc
  cases hc

theorem isMark_of_not_inPath {c : Char} (hc : inPath c = false) : isMark c = false := by
  rw [← Bool.not_eq_true]
  intro hmark
  have hchar : c = '?' ∨ c = '#' := by simpa [isMark] using hmark
  rcases hchar with rfl | rfl <;> cases hc

/-- What is written of a part behind its mark holds what holds of the mark and of its text. -/
theorem of_mem_renderPart {p : Char → Prop} {mark : String} {part : Option String}
    (hmark : mark.toList.Forall p) (hpart : ∀ text ∈ part, ∀ c ∈ text.toList, p c) :
    ∀ c ∈ (renderPart mark part).toList, p c := by
  intro c hc
  cases part with
  | none => cases hc
  | some text =>
    rw [renderPart, String.toList_append, List.mem_append] at hc
    exact hc.elim (List.forall_iff_forall_mem.mp hmark c) (hpart text rfl c)

namespace IsEncoded

variable {u : Url}

/-- No segment holds what has to be encoded in a path. -/
theorem not_inPath (hu : u.IsEncoded) {names : List String} (hpath : u.path = .segments names) :
    ∀ s ∈ names.map String.toList, IsStep s ∧ encode inPath s = s ∧
      ∀ c ∈ s, inPath c = false := by
  obtain ⟨names', hpath', hnames⟩ := hu.path
  obtain rfl := Path.segments.inj (hpath.symm.trans hpath')
  intro s hs
  obtain ⟨name, hname, rfl⟩ := List.mem_map.mp hs
  obtain ⟨hstep, hencode⟩ := hnames name hname
  exact ⟨hstep, hencode, fun c hc => not_set_of_mem_encode (by decide) (by rwa [hencode])⟩

/-- What holds of the marks, and of what stays as it is in a fragment or a query, holds of all that
is written of a URL behind its authority. -/
theorem of_mem_behindAuthority (hu : u.IsEncoded) {p : Char → Prop} (hmarks : "/?#".toList.Forall p)
    (hfragment : ∀ c, inFragment c = false → p c) (hquery : ∀ c, inQuery true c = false → p c) :
    ∀ c ∈ u.behindAuthority.toList, p c := by
  obtain ⟨names, hpath, -⟩ := hu.path
  obtain ⟨hslash, hquestion, hnumber⟩ : p '/' ∧ p '?' ∧ p '#' := hmarks
  rw [toList_behindAuthority hpath, List.forall_mem_append, List.forall_mem_append]
  refine ⟨of_mem_slashed hslash fun s hs c hc => ?_,
    of_mem_renderPart hquestion fun query hmem c hc => ?_,
    of_mem_renderPart hnumber fun fragment hmem c hc => ?_⟩
  · have hnot := (hu.not_inPath hpath s hs).2.2 c hc
    rw [inPath, Bool.or_eq_false_iff] at hnot
    exact hfragment c hnot.1
  · obtain ⟨s, hs⟩ := hu.query query hmem
    rw [hs] at hc
    exact hquery c (not_set_of_mem_encode (by decide) hc)
  · obtain ⟨s, hs⟩ := hu.fragment fragment hmem
    rw [hs] at hc
    exact hfragment c (not_set_of_mem_encode (by decide) hc)

/-- All that is written of a URL behind its authority counts. -/
theorem isKept_of_mem_behindAuthority (hu : u.IsEncoded) :
    ∀ c ∈ u.behindAuthority.toList, isKept c = true :=
  hu.of_mem_behindAuthority (by decide) (fun _ => isKept_of_not_set (by decide))
    fun _ => isKept_of_not_set (by decide)

/-- No control and no blank is written of a URL behind its authority. -/
theorem isPadding_of_mem_behindAuthority (hu : u.IsEncoded) :
    ∀ c ∈ u.behindAuthority.toList, isPadding c = false := by
  have hlow {set : Char → Bool} (hset : ∀ c, Unicode.IsLow c → set c = true) (c : Char)
      (hc : set c = false) : isPadding c = false := by
    rw [← Bool.not_eq_true]
    intro hpadding
    rw [hset c (of_decide_eq_true hpadding)] at hc
    cases hc
  exact hu.of_mem_behindAuthority (by decide)
    (hlow fun c hc => hc.of_forall (p := fun c => inFragment c = true) (by decide))
    (hlow fun c hc => hc.of_forall (p := fun c => inQuery true c = true) (by decide))

/-- The marks that are written of a URL behind its authority are those of a query and a fragment. -/
theorem isMark_behindAuthority (hu : u.IsEncoded) :
    (∀ c ∈ u.behindAuthority.toList, isMark c = false) ↔ u.IsBare := by
  obtain ⟨names, hpath, -⟩ := hu.path
  have hnames : ∀ c ∈ slashed (names.map String.toList), isMark c = false :=
    of_mem_slashed (by decide) fun s hs c hc =>
      isMark_of_not_inPath ((hu.not_inPath hpath s hs).2.2 c hc)
  have hpart {mark : String} (hmark : ¬mark.toList.Forall (isMark · = false))
      (part : Option String) :
      (∀ c ∈ (renderPart mark part).toList, isMark c = false) ↔ part = none := by
    cases part with
    | none => exact ⟨fun _ => rfl, fun _ => List.forall_mem_nil _⟩
    | some text =>
      rw [renderPart, String.toList_append, List.forall_mem_append]
      exact ⟨fun h => absurd (List.forall_iff_forall_mem.mpr h.1) hmark, nofun⟩
  rw [toList_behindAuthority hpath, List.forall_mem_append, List.forall_mem_append,
    and_iff_right hnames, hpart (by decide), hpart (by decide), IsBare]

end IsEncoded

/-! ### Steps -/

/-- The names on the path of a URL, without the empty ones at its end. -/
def steps (u : Url) : List String :=
  match u.path with
  | .plain _ => []
  | .segments names => names.rdropWhile (· = "")

/-- Without the slashes at its end, the text of a path is that of its steps. -/
theorem rdropWhile_behindAuthority {u : Url} (hu : u.IsEncoded) (hbare : u.IsBare) :
    u.behindAuthority.toList.rdropWhile (· = '/') = slashed (u.steps.map String.toList) := by
  obtain ⟨names, hpath, -⟩ := hu.path
  have hslash : ∀ s ∈ names.map String.toList, '/' ∉ s := fun s hs hmem =>
    absurd ((hu.not_inPath hpath s hs).1.isSlash '/' hmem) (by decide)
  have hempty : (fun s : List Char => decide (s = [])) ∘ String.toList =
      fun name => decide (name = "") := by
    funext name
    exact decide_eq_decide.mpr String.toList_eq_nil_iff
  have hdrop : (names.map String.toList).rdropWhile (· = []) =
      (names.rdropWhile (· = "")).map String.toList := by
    rw [List.rdropWhile, List.rdropWhile, ← List.map_reverse, List.dropWhile_map, hempty,
      ← List.map_reverse]
  rw [toList_behindAuthority hpath, hbare.1, hbare.2, steps, hpath, renderPart, renderPart,
    String.toList_empty, List.append_nil, List.append_nil, rdropWhile_slashed hslash, hdrop]

end FlowAudit.Url
