import FlowAudit.Proofs.Url.Written

/-!
# URLs read back

A URL of a web server that was read is read again from its text form (`parse_render`), so URLs of
one text form are equal (`render_inj`). What stands in the text of such a URL behind its authority
is read part by part, whatever its parts are (`parse_marked`).
-/

namespace FlowAudit.Url

/-! ### Users -/

/-- A part of a user that was read stands for itself. -/
theorem notMem_of_encode {mark : Char} (hmark : inUserInfo mark = true) {s : List Char}
    (hs : encode inUserInfo s = s) : mark ∉ s := by
  intro hmem
  rw [← hs] at hmem
  have hnot := not_set_of_mem_encode (by decide) hmem
  rw [hmark] at hnot
  cases hnot

theorem splitAtMark_append {mark : Char} {front : List Char} (hfront : mark ∉ front)
    (back : List Char) : splitAtMark mark (front ++ mark :: back) = (front, some back) := by
  rw [splitAtMark, Text.splitOnce?_append hfront]

theorem splitAtMark_of_notMem {mark : Char} {s : List Char} (hs : mark ∉ s) :
    splitAtMark mark s = (s, none) := by
  rw [splitAtMark, Text.splitOnce?_eq_none_iff.mpr hs]

namespace Authority

/-- Whether an authority is as those that are read under a scheme: there is a host, the user is
encoded, and neither an empty password nor the port of the scheme is kept. -/
structure IsNormal (scheme : String) (a : Authority) : Prop where
  host : ∃ host, a.host = some host ∧ host.IsStable
  username : encode inUserInfo a.username.toList = a.username.toList
  password : ∀ p ∈ a.password, p ≠ "" ∧ encode inUserInfo p.toList = p.toList
  port : ∀ port ∈ a.port, some port ≠ defaultPort? scheme

variable {scheme : String} {a : Authority}

/-- The name and the password of a user are read as they were written. -/
theorem IsNormal.parseUser_renderUser (h : a.IsNormal scheme) :
    parseUser ((userText a.renderUser.toList).getD []) = (a.username, a.password) := by
  have hcolon : ':' ∉ a.username.toList := notMem_of_encode (by decide) h.username
  have huser (user : List Char) : userText (user ++ ['@']) = some user := by
    rw [userText, splitUser?_append List.not_mem_nil]
    rfl
  cases hpassword : a.password with
  | some p =>
    obtain ⟨hne, hencode⟩ := h.password p hpassword
    have htext : a.renderUser.toList = a.username.toList ++ ':' :: p.toList ++ ['@'] := by
      simp [renderUser, hpassword]
    rw [htext, huser, Option.getD_some, parseUser, splitAtMark_append hcolon]
    simp [h.username, hencode, hne]
  | none =>
    by_cases hname : a.username = ""
    · have htext : a.renderUser.toList = [] := by simp [renderUser, hpassword, hname]
      rw [htext, hname]
      rfl
    · have htext : a.renderUser.toList = a.username.toList ++ ['@'] := by
        simp [renderUser, hpassword, hname]
      rw [htext, huser, Option.getD_some, parseUser, splitAtMark_of_notMem hcolon]
      simp [h.username]

/-- The characters of a user stay in the authority. -/
theorem IsNormal.isPlain_renderUser (h : a.IsNormal scheme) :
    ∀ c ∈ a.renderUser.toList, isPlain c = true := by
  have hplain {s : String} (hs : encode inUserInfo s.toList = s.toList) :
      ∀ c ∈ s.toList, isPlain c = true := fun c hc =>
    isPlain_of_inUserInfo (not_set_of_mem_encode (by decide) (by rwa [hs]))
  exact of_mem_renderUser (by decide) (hplain h.username) fun p hp => hplain (h.password p hp).2

/-- An authority is read as it was written. -/
theorem IsNormal.parseAuthority_render (h : a.IsNormal scheme) :
    parseAuthority scheme .special a.render.toList false = .ok (a, []) := by
  obtain ⟨host, ha, hhost⟩ := h.host
  obtain ⟨a', hread, huser, ha', hport⟩ := Url.parseAuthority_render ha hhost scheme
  rw [h.parseUser_renderUser] at huser
  obtain ⟨hname, hpassword⟩ := Prod.mk.inj huser
  have hkept : a'.port = a.port := by
    rw [hport]
    refine ite_eq_right_iff.mpr fun hdefault => ?_
    cases hsome : a.port with
    | none => rfl
    | some port => exact absurd (hsome ▸ hdefault) (h.port port hsome)
  obtain ⟨username, password, host', port⟩ := a'
  obtain ⟨rfl, rfl, rfl, rfl⟩ : username = a.username ∧ password = a.password ∧
    host' = a.host ∧ port = a.port := ⟨hname, hpassword, ha'.trans ha.symm, hkept⟩
  exact hread

end Authority

theorem ne_defaultPort_of_readPort {scheme : String} {s : List Char}
    {port : Option Port × List Char} (h : readPort scheme s = .ok port) :
    ∀ p ∈ port.1, some p ≠ defaultPort? scheme := by
  have hdropped (read default : Option Port) :
      ∀ p ∈ if read = default then none else read, some p ≠ default := by
    intro p hp
    by_cases hread : read = default
    · rw [if_pos hread] at hp
      cases hp
    · rw [if_neg hread] at hp
      rwa [← Option.mem_def.mp hp]
  unfold readPort at h
  split at h
  · obtain rfl := Except.ok.inj h
    exact nofun
  · unfold parsePort at h
    rw [List.span_eq_takeWhile_dropWhile] at h
    dsimp only at h
    split at h
    · cases h
    · split at h
      · cases h
      · obtain rfl := Except.ok.inj h
        exact hdropped _ _

/-- An authority that was read is normal. -/
theorem isNormal_of_parseAuthority {scheme : String} {s : List Char} {more : Bool}
    {a : Authority × List Char} (h : parseAuthority scheme .special s more = .ok a) :
    a.1.IsNormal scheme := by
  obtain ⟨host, port, hhost, hport, rfl⟩ := exists_of_parseAuthority h
  refine ⟨⟨host, rfl, Host.isStable_of_parseSpecial hhost⟩, ?_, fun p hp => ?_,
    ne_defaultPort_of_readPort hport⟩
  · rw [parseUser, String.toList_ofList]
    exact encode_encode (by decide)
  · obtain ⟨t, ht, rfl⟩ := Option.map_eq_some_iff.mp hp
    obtain ⟨-, hne⟩ := Option.filter_eq_some_iff.mp ht
    rw [String.toList_ofList]
    refine ⟨fun hempty => ?_, encode_encode (by decide)⟩
    rw [String.ofList_eq_empty_iff] at hempty
    rw [eq_nil_of_encode_eq_nil hempty] at hne
    cases hne

/-! ### Parts behind their marks -/

/-- What is written of a part behind its mark. -/
def marked (mark : Char) : Option (List Char) → List Char
  | some s => mark :: s
  | none => []

theorem toList_renderPart (mark : Char) (part : Option String) :
    (renderPart (String.singleton mark) part).toList = marked mark (part.map String.toList) := by
  cases part with
  | none => rfl
  | some text => simp [renderPart, marked]

theorem notMem_marked {mark c : Char} {part : Option (List Char)} (hne : c ≠ mark)
    (hpart : ∀ s ∈ part, c ∉ s) : c ∉ marked mark part := by
  cases part with
  | none => exact List.not_mem_nil
  | some s =>
    rw [marked, List.mem_cons, not_or]
    exact ⟨hne, hpart s rfl⟩

theorem splitAtMark_marked {mark : Char} {front : List Char} (hfront : mark ∉ front)
    (part : Option (List Char)) : splitAtMark mark (front ++ marked mark part) = (front, part) := by
  cases part with
  | none => rw [marked, List.append_nil, splitAtMark_of_notMem hfront]
  | some s => rw [marked, splitAtMark_append hfront]

/-- A path ends at the mark of a query or of a fragment. -/
theorem takeWhile_marked {path : List Char} (hpath : ∀ c ∈ path, isMark c = false)
    (query fragment : Option (List Char)) :
    (path ++ (marked '?' query ++ marked '#' fragment)).takeWhile (!isMark ·) = path := by
  have hmarks : (marked '?' query ++ marked '#' fragment).takeWhile (!isMark ·) = [] := by
    cases query with
    | some q => rfl
    | none => cases fragment <;> rfl
  rw [List.takeWhile_append_of_pos fun c hc => by simp [hpath c hc], hmarks, List.append_nil]

/-- The text of a URL of a web server is read part by part. -/
theorem parse_marked {text scheme : String} {a : Authority} {path : List Char}
    {query fragment : Option (List Char)} (hweb : scheme = "http" ∨ scheme = "https")
    (ha : a.IsNormal scheme) (hslash : path.head? = some '/')
    (hpath : ∀ c ∈ path, isMark c = false) (hquery : ∀ q ∈ query, '#' ∉ q)
    (hend : IsKeptEnd (path ++ (marked '?' query ++ marked '#' fragment)))
    (htext : text.toList = scheme.toList ++ ':' :: '/' :: '/' ::
      (a.render.toList ++ (path ++ (marked '?' query ++ marked '#' fragment)))) :
    parse text = .ok {
      scheme
      authority := some a
      path := .segments (parsePath .special path)
      query := query.map fun q => String.ofList (encode (inQuery true) q)
      fragment := fragment.map fun f => String.ofList (encode inFragment f) } := by
  obtain ⟨hkind, hname, -, hhead, hlower⟩ := webScheme_spec hweb
  rw [List.forall_iff_forall_mem] at hname
  obtain ⟨host, hhost, hstable⟩ := ha.host
  have hplain := isPlain_of_mem_render hhost hstable ha.isPlain_renderUser
  have hne : a.render.toList ≠ [] := by
    rw [render_eq hhost]
    simp [Host.render_ne_nil_of_isStable hstable]
  have hends : endsAuthority '/' = true := by decide
  obtain ⟨back, hback⟩ : ∃ back, path = '/' :: back := List.head?_eq_some_iff.mp hslash
  generalize htail : back ++ (marked '?' query ++ marked '#' fragment) = tail
  have hall : path ++ (marked '?' query ++ marked '#' fragment) = '/' :: tail := by
    rw [hback, List.cons_append, htail]
  rw [hall] at hend htext
  obtain ⟨tail', hsig, hwhole⟩ := significant_of_authority hweb hplain hends htext
  rw [hwhole hend] at hsig
  have hread := parse_special
    (splitScheme?_eq_some_iff.mpr ⟨scheme.toList, hsig, hname, hhead, hlower⟩) hkind
  rw [authorityText_of_isPlain hne hplain hends, ha.parseAuthority_render] at hread
  -- the fragment is split off first, and the query from what is left
  have hnone {mark : Char} (hmark : isMark mark = true) :
      mark ∉ '/' :: '/' :: (a.render.toList ++ path) := by
    intro hmem
    have hnot : isMark mark = false := by
      rw [List.mem_cons, List.mem_cons, List.mem_append] at hmem
      rcases hmem with rfl | rfl | hmem | hmem
      · decide
      · decide
      · exact (of_isPlain (hplain mark hmem)).2.1
      · exact hpath mark hmem
    rw [hmark] at hnot
    cases hnot
  have hfront : '#' ∉ '/' :: '/' :: (a.render.toList ++ path) ++ marked '?' query := by
    rw [List.mem_append, not_or]
    exact ⟨hnone (by decide), notMem_marked (by decide) hquery⟩
  have hrest : '/' :: '/' :: (a.render.toList ++ '/' :: tail) =
      '/' :: '/' :: (a.render.toList ++ path) ++ marked '?' query ++ marked '#' fragment := by
    rw [← hall]
    simp
  have hpathText : pathText ('/' :: '/' :: (a.render.toList ++ '/' :: tail)) = path := by
    rw [(pathText_of_isPlain hne hplain hends).1, ← hall, takeWhile_marked hpath]
  rw [hread, Except.map, finish, hpathText, hrest, splitAtMark_marked hfront,
    splitAtMark_marked (hnone (by decide)), List.nil_append]

/-! ### Normal URLs -/

/-- The last segment of a path leaves one. -/
theorem resolve_ne_nil {segments : List (List Char)} (hne : segments ≠ []) (done : List String) :
    resolve false done segments ≠ [] := by
  induction segments generalizing done with
  | nil => exact absurd rfl hne
  | cons s segments ih =>
    rw [resolve_cons]
    cases segments with
    | cons s' segments => exact ih (List.cons_ne_nil _ _) _
    | nil =>
      rw [resolve, Ne, List.reverse_eq_nil_iff, stepOver]
      split
      · exact List.cons_ne_nil _ _
      · split <;> exact List.cons_ne_nil _ _

theorem parsePath_ne_nil (s : List Char) : parsePath .special s ≠ [] := by
  obtain ⟨t, ht, -⟩ := parsePath_special s
  rw [ht]
  exact resolve_ne_nil (segmentsFrom_ne_nil _ _ _) []

/-- Whether a URL is as those of web servers that are read. -/
structure IsNormal (u : Url) : Prop where
  scheme : u.scheme = "http" ∨ u.scheme = "https"
  authority : ∃ a, u.authority = some a ∧ a.IsNormal u.scheme
  isEncoded : u.IsEncoded
  path_ne_nil : u.path ≠ .segments []

theorem isNormal_of_parse {text : String} {u : Url} (h : parse text = .ok u)
    (hweb : u.isWeb = true) : u.IsNormal := by
  obtain ⟨-, hencoded⟩ := exists_of_parse h hweb
  obtain ⟨rest, a, -, hread, hu⟩ := exists_of_parse_web h hweb
  refine ⟨?_, ⟨a.1, hu.authority, isNormal_of_parseAuthority hread⟩, hencoded, ?_⟩
  · rwa [isWeb, Bool.or_eq_true, decide_eq_true_eq, decide_eq_true_eq] at hweb
  · rw [hu.path]
    exact fun hnil => parsePath_ne_nil _ (Path.segments.inj hnil)

namespace IsNormal

variable {u v : Url}

/-- What stands behind the authority of a normal URL is its parts, which are encoded. -/
theorem exists_parts (hu : u.IsNormal) : ∃ names, u.path = .segments names ∧
    (slashed (names.map String.toList)).head? = some '/' ∧
    (∀ c ∈ slashed (names.map String.toList), isMark c = false) ∧
    parsePath .special (slashed (names.map String.toList)) = names ∧
    u.behindAuthority.toList = slashed (names.map String.toList) ++
      (marked '?' (u.query.map String.toList) ++ marked '#' (u.fragment.map String.toList)) := by
  obtain ⟨names, hpath, -⟩ := hu.isEncoded.path
  have hsteps := hu.isEncoded.not_inPath hpath
  have hne : names.map String.toList ≠ [] := by
    rw [Ne, List.map_eq_nil_iff]
    rintro rfl
    exact hu.path_ne_nil hpath
  refine ⟨names, hpath, ?_, ?_, ?_, ?_⟩
  · obtain ⟨s, segments, hsegments⟩ := List.exists_cons_of_ne_nil hne
    rw [hsegments]
    rfl
  · exact of_mem_slashed (by decide) fun s hs c hc => isMark_of_not_inPath ((hsteps s hs).2.2 c hc)
  · rw [parsePath_slashed hne fun s hs => (hsteps s hs).1, List.map_map]
    conv_rhs => rw [← List.map_id names]
    refine List.map_congr_left fun name hname => ?_
    rw [Function.comp_apply, (hsteps _ (List.mem_map_of_mem hname)).2.1, String.ofList_toList, id]
  · have hquery := toList_renderPart '?' u.query
    have hfragment := toList_renderPart '#' u.fragment
    rw [toList_behindAuthority hpath, ← hquery, ← hfragment]
    rfl

theorem encode_query (hu : u.IsNormal) :
    ∀ q ∈ u.query, encode (inQuery true) q.toList = q.toList := by
  intro q hq
  obtain ⟨s, hs⟩ := hu.isEncoded.query q hq
  rw [hs, encode_encode (by decide)]

theorem encode_fragment (hu : u.IsNormal) :
    ∀ f ∈ u.fragment, encode inFragment f.toList = f.toList := by
  intro f hf
  obtain ⟨s, hs⟩ := hu.isEncoded.fragment f hf
  rw [hs, encode_encode (by decide)]

/-- No query holds the mark of a fragment. -/
theorem notMem_query (hu : u.IsNormal) : ∀ q ∈ u.query, '#' ∉ q.toList := by
  intro q hq hmem
  rw [← hu.encode_query q hq] at hmem
  exact absurd (not_set_of_mem_encode (by decide) hmem) (by decide)

/-- A normal URL is read from its text form. -/
theorem parse_render (hu : u.IsNormal) : parse u.render = .ok u := by
  obtain ⟨a, hauthority, ha⟩ := hu.authority
  obtain ⟨names, hpath, hslash, hmarks, hread, hbehind⟩ := hu.exists_parts
  have hend : IsKeptEnd (slashed (names.map String.toList) ++
      (marked '?' (u.query.map String.toList) ++ marked '#' (u.fragment.map String.toList))) := by
    rw [← hbehind]
    exact ⟨hu.isEncoded.isKept_of_mem_behindAuthority, fun c hc =>
      hu.isEncoded.isPadding_of_mem_behindAuthority c (List.mem_of_getLast? hc)⟩
  have hquery : ∀ q ∈ u.query.map String.toList, '#' ∉ q := by
    intro q hq
    obtain ⟨text, htext, rfl⟩ := Option.map_eq_some_iff.mp hq
    exact hu.notMem_query text htext
  have htext := render_of_authority hauthority
  rw [hbehind] at htext
  rw [parse_marked hu.scheme ha hslash hmarks hquery hend htext, hread]
  have hencoded {set : Char → Bool} {part : Option String}
      (hpart : ∀ text ∈ part, encode set text.toList = text.toList) :
      (part.map String.toList).map (fun s => String.ofList (encode set s)) = part := by
    cases part with
    | none => rfl
    | some text => simp [hpart text rfl]
  rw [hencoded hu.encode_query, hencoded hu.encode_fragment, ← hauthority, ← hpath]

/-- Normal URLs are told by their text forms. -/
theorem render_inj (hu : u.IsNormal) (hv : v.IsNormal) : u.render = v.render ↔ u = v := by
  constructor
  · intro h
    have hread := hu.parse_render
    rw [h, hv.parse_render] at hread
    exact (Except.ok.inj hread).symm
  · exact congrArg render

end IsNormal

end FlowAudit.Url
