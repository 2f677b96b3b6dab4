import FlowAudit.Proofs.Url.Name
import FlowAudit.Url.Parser

/-!
# The authority of a URL with a host

Under a special scheme the authority is what stands behind the slashes up to a slash, a question
mark or a number sign (`authorityText`), and nothing else of a text matters for it
(`parse_special`). An authority that ends in a control or a blank is refused
(`parseAuthority_of_low`), and one that was written is read again (`parseAuthority_render`).
-/

namespace FlowAudit.Url

open Unicode (IsLow)

/-! ### What of a text is the authority -/

/-- Whether a character ends the authority of a URL with a host. -/
def endsAuthority (c : Char) : Bool :=
  isSlash true c || c = '?' || c = '#'

/-- The authority in what follows the scheme. -/
def authorityText (rest : List Char) : List Char :=
  (rest.dropWhile (isSlash true)).takeWhile (!endsAuthority ·)

theorem fst_splitAtMark (mark : Char) (s : List Char) :
    (splitAtMark mark s).1 = s.takeWhile (· ≠ mark) := by
  unfold splitAtMark
  split
  · rename_i front back hsplit
    obtain ⟨rfl, hfront⟩ := Text.eq_of_splitOnce? hsplit
    rw [List.takeWhile_append_of_pos, List.takeWhile_cons_of_neg, List.append_nil]
    · simp
    · exact fun c hc => by simpa using fun h : c = mark => hfront (h ▸ hc)
  · rename_i hsplit
    rw [Text.splitOnce?_eq_none_iff] at hsplit
    exact (List.takeWhile_eq_self_iff.mpr fun c hc => by
      simpa using fun h : c = mark => hsplit (h ▸ hc)).symm

theorem dropWhile_takeWhile {p q : Char → Bool} (hpq : ∀ c, p c = true → q c = true)
    (s : List Char) : (s.takeWhile q).dropWhile p = (s.dropWhile p).takeWhile q := by
  induction s with
  | nil => rfl
  | cons c s ih =>
    cases hp : p c with
    | true => simp [hp, hpq c hp, ih]
    | false => cases hq : q c <;> simp [hp, hq]

/-- The authority does not depend on whether the query or the path ends it. -/
theorem fst_span_main (rest : List Char) :
    (((splitAtMark '?' (splitAtMark '#' rest).1).1.dropWhile (isSlash true)).span
      (!isSlash true ·)).1 = authorityText rest := by
  have hmark {mark : Char} (hmark : isSlash true mark = false) (c : Char)
      (hc : isSlash true c = true) : decide (c ≠ mark) = true := by
    rw [decide_eq_true_eq]
    rintro rfl
    rw [hmark] at hc
    cases hc
  rw [List.span_eq_takeWhile_dropWhile, fst_splitAtMark, fst_splitAtMark,
    dropWhile_takeWhile (hmark (by decide)), dropWhile_takeWhile (hmark (by decide)),
    List.takeWhile_takeWhile, List.takeWhile_takeWhile, authorityText]
  have hends (c : Char) :
      (decide (decide ((!isSlash true c) = true ∧ decide (c ≠ '?') = true) = true ∧
        decide (c ≠ '#') = true)) = !endsAuthority c := by
    simp [endsAuthority]
  simp only [hends]

/-! ### The parts of an authority -/

/-- The name and the password of the user in an authority. -/
def userText (s : List Char) : Option (List Char) :=
  (splitUser? s).map (·.1)

/-- What follows the user in an authority. -/
def hostText (s : List Char) : List Char :=
  ((splitUser? s).map (·.2)).getD s

/-- Reads what follows a host. -/
def readPort (scheme : String) : List Char → Except UrlError (Option Port × List Char)
  | [] => .ok (none, [])
  | _ :: digits => parsePort scheme digits

theorem parseHost_special (s : List Char) :
    (∃ e, parseHost .special s = .error e) ∨
      s ≠ [] ∧ ∃ host, Host.parseSpecial s = .ok host ∧ parseHost .special s = .ok (some host) := by
  rw [parseHost]
  split
  · exact .inl ⟨_, rfl⟩
  · rename_i hne
    cases hs : Host.parseSpecial s with
    | error e => exact .inl ⟨e, rfl⟩
    | ok host => exact .inr ⟨by simpa using hne, host, rfl, rfl⟩
  · exact nofun

/-- An authority is read part by part; whether there is more behind it makes no difference. -/
theorem parseAuthority_special (scheme : String) (s : List Char) (more : Bool) :
    parseAuthority scheme .special s more =
      (parseHost .special (spanHost false (hostText s)).1).bind fun host =>
        (readPort scheme (spanHost false (hostText s)).2).bind fun port =>
          .ok (⟨(parseUser ((userText s).getD [])).1, (parseUser ((userText s).getD [])).2, host,
            port.1⟩, port.2) := by
  unfold parseAuthority
  split
  rename_i user t hsplit
  obtain ⟨rfl, rfl⟩ : userText s = user ∧ hostText s = t := by
    rw [userText, hostText]
    cases hs : splitUser? s <;> rw [hs] at hsplit <;> exact Prod.mk.inj hsplit
  split
  · -- nothing follows an empty name
    rename_i hempty
    have ht : hostText s = [] := by
      rw [Bool.and_eq_true, Bool.and_eq_true] at hempty
      simpa using hempty.1.2
    rw [ht]
    rfl
  · dsimp only
    obtain ⟨e, he⟩ | ⟨-, host, -, hhost⟩ := parseHost_special (spanHost false (hostText s)).1
    · rw [he]
      rfl
    · rw [hhost]
      cases (spanHost false (hostText s)).2 with
      | nil => rfl
      | cons c digits =>
        cases hport : parsePort scheme digits <;> simp only [readPort, hport] <;> rfl

/-- An authority that was read has a host, and is put together from what was read of its parts. -/
theorem exists_of_parseAuthority {scheme : String} {s : List Char} {more : Bool}
    {a : Authority × List Char} (h : parseAuthority scheme .special s more = .ok a) :
    ∃ host port, Host.parseSpecial (spanHost false (hostText s)).1 = .ok host ∧
      readPort scheme (spanHost false (hostText s)).2 = .ok port ∧
      a = (⟨(parseUser ((userText s).getD [])).1, (parseUser ((userText s).getD [])).2, some host,
        port.1⟩, port.2) := by
  rw [parseAuthority_special] at h
  obtain ⟨e, he⟩ | ⟨-, host, hhost, hparse⟩ := parseHost_special (spanHost false (hostText s)).1
  · rw [he] at h
    cases h
  · rw [hparse] at h
    cases hport : readPort scheme (spanHost false (hostText s)).2 with
    | error e =>
      rw [hport] at h
      cases h
    | ok port =>
      rw [hport] at h
      exact ⟨host, port, hhost, rfl, (Except.ok.inj h).symm⟩

/-- Whether a character ends the path of a URL. -/
def isMark (c : Char) : Bool :=
  c = '?' || c = '#'

/-- Nothing follows the path of a URL. -/
def IsBare (u : Url) : Prop :=
  u.query = none ∧ u.fragment = none

/-- What stands between the authority and the query in what follows the scheme. -/
def pathText (rest : List Char) : List Char :=
  ((rest.takeWhile (!isMark ·)).dropWhile (isSlash true)).dropWhile (!isSlash true ·)

theorem fst_splitAtMark_splitAtMark (rest : List Char) :
    (splitAtMark '?' (splitAtMark '#' rest).1).1 = rest.takeWhile (!isMark ·) := by
  rw [fst_splitAtMark, fst_splitAtMark, List.takeWhile_takeWhile]
  refine congrArg (List.takeWhile · rest) (funext fun c => ?_)
  simp [isMark]

theorem snd_splitAtMark_eq_none_iff {mark : Char} {s : List Char} :
    (splitAtMark mark s).2 = none ↔ mark ∉ s := by
  rw [← Text.splitOnce?_eq_none_iff, splitAtMark]
  cases Text.splitOnce? mark s <;> simp

/-- There is neither a query nor a fragment where there is no mark. -/
theorem snd_splitAtMark_splitAtMark_eq_none_iff (rest : List Char) :
    (splitAtMark '?' (splitAtMark '#' rest).1).2 = none ∧ (splitAtMark '#' rest).2 = none ↔
      ∀ c ∈ rest, isMark c = false := by
  have hmarks : '?' ∉ rest ∧ '#' ∉ rest ↔ ∀ c ∈ rest, isMark c = false := by
    simp only [isMark, Bool.or_eq_false_iff, decide_eq_false_iff_not]
    exact ⟨fun h c hc => ⟨fun heq => h.1 (heq ▸ hc), fun heq => h.2 (heq ▸ hc)⟩,
      fun h => ⟨fun hmem => (h _ hmem).1 rfl, fun hmem => (h _ hmem).2 rfl⟩⟩
  rw [← hmarks, snd_splitAtMark_eq_none_iff, snd_splitAtMark_eq_none_iff]
  refine and_congr_left fun hfragment => ?_
  have hwhole : (splitAtMark '#' rest).1 = rest := by
    rw [splitAtMark, Text.splitOnce?_eq_none_iff.mpr hfragment]
  rw [hwhole]

/-- How a URL is put together from its scheme, its authority and the rest of its text. -/
structure IsFinished (u : Url) (scheme : String) (rest : List Char) (a : Authority × List Char) :
    Prop where
  scheme : u.scheme = scheme
  authority : u.authority = some a.1
  path : u.path = .segments (parsePath .special (a.2 ++ pathText rest))
  isBare : u.IsBare ↔ ∀ c ∈ rest, isMark c = false
  query : ∀ query ∈ u.query, ∃ s, query.toList = encode (inQuery true) s
  fragment : ∀ fragment ∈ u.fragment, ∃ s, fragment.toList = encode inFragment s

/-- The URL that is put together from its scheme, its authority and the rest of its text. -/
def finish (scheme : String) (rest : List Char) (a : Authority × List Char) : Url where
  scheme := scheme
  authority := some a.1
  path := .segments (parsePath .special (a.2 ++ pathText rest))
  query := (splitAtMark '?' (splitAtMark '#' rest).1).2.map fun q =>
    String.ofList (encode (inQuery true) q)
  fragment := (splitAtMark '#' rest).2.map fun f => String.ofList (encode inFragment f)

theorem isFinished_finish (scheme : String) (rest : List Char) (a : Authority × List Char) :
    (finish scheme rest a).IsFinished scheme rest a := by
  refine ⟨rfl, rfl, rfl, ?_, fun text htext => ?_, fun text htext => ?_⟩
  · rw [IsBare, finish, Option.map_eq_none_iff, Option.map_eq_none_iff,
      snd_splitAtMark_splitAtMark_eq_none_iff]
  · obtain ⟨s, -, rfl⟩ := Option.map_eq_some_iff.mp htext
    exact ⟨s, String.toList_ofList⟩
  · obtain ⟨s, -, rfl⟩ := Option.map_eq_some_iff.mp htext
    exact ⟨s, String.toList_ofList⟩

/-- A URL with a host is read by its scheme, its authority and its path. -/
theorem parse_special {text scheme : String} {rest : List Char}
    (hscheme : splitScheme? (significant text.toList) = some (scheme, rest))
    (hkind : SchemeKind.of scheme = .special) :
    parse text =
      (parseAuthority scheme .special (authorityText rest) false).map (finish scheme rest) := by
  unfold parse
  rw [hscheme]
  dsimp only
  unfold parseMain
  rw [hkind]
  dsimp only
  rw [fst_span_main, parseAuthority_special, ← parseAuthority_special scheme _ false]
  have hpath : (((splitAtMark '?' (splitAtMark '#' rest).1).1.dropWhile (isSlash true)).span
      (!isSlash true ·)).2 = pathText rest := by
    rw [List.span_eq_takeWhile_dropWhile, fst_splitAtMark_splitAtMark, pathText]
  rw [hpath]
  cases parseAuthority scheme .special (authorityText rest) false <;> rfl

/-! ### The user, the host and the port -/

theorem splitUser?_append {host : List Char} (hhost : '@' ∉ host) (user : List Char) :
    splitUser? (user ++ '@' :: host) = some (user, host) := by
  have hhost' : '@' ∉ host.reverse := by simpa using hhost
  have hsplit := Text.splitOnce?_append hhost' user.reverse
  have hreverse : (user ++ '@' :: host).reverse = host.reverse ++ '@' :: user.reverse := by simp
  rw [splitUser?, hreverse, hsplit]
  simp

theorem splitUser?_of_notMem {s : List Char} (hs : '@' ∉ s) : splitUser? s = none := by
  rw [splitUser?, Option.map_eq_none_iff, Text.splitOnce?_eq_none_iff]
  simpa using hs

/-- An authority is what follows its user, if there is none in front. -/
theorem hostText_spec (s : List Char) : hostText s = s ∨ ∃ user, s = user ++ '@' :: hostText s := by
  rw [hostText]
  cases hsplit : splitUser? s with
  | none => exact .inl rfl
  | some parts =>
    obtain ⟨⟨front, back⟩, honce, rfl⟩ := Option.map_eq_some_iff.mp hsplit
    have hs := congrArg List.reverse (Text.eq_of_splitOnce? honce).1
    exact .inr ⟨back.reverse, by simpa using hs⟩

/-- A host ends where the text does, or at a colon. -/
theorem spanHost_spec (inBrackets : Bool) (s : List Char) :
    (spanHost inBrackets s).2 = [] ∧ (spanHost inBrackets s).1 = s ∨
      ∃ digits, (spanHost inBrackets s).2 = ':' :: digits ∧
        s = (spanHost inBrackets s).1 ++ ':' :: digits := by
  induction s generalizing inBrackets with
  | nil => exact .inl ⟨rfl, rfl⟩
  | cons c s ih =>
    rw [spanHost]
    split
    · rename_i hc
      obtain ⟨rfl, -⟩ : c = ':' ∧ _ := by simpa using hc
      exact .inr ⟨s, rfl, rfl⟩
    · obtain ⟨hrest, hhost⟩ | ⟨digits, hrest, hs⟩ := ih
        (if c = '[' then true else if c = ']' then false else inBrackets)
      · exact .inl ⟨hrest, congrArg (c :: ·) hhost⟩
      · exact .inr ⟨digits, hrest, congrArg (c :: ·) hs⟩

/-- Only a backslash may follow a port. -/
theorem snd_eq_nil_of_parsePort {scheme : String} {s : List Char} {port : Option Port × List Char}
    (h : parsePort scheme s = .ok port) (hslash : '\\' ∉ s) : port.2 = [] := by
  unfold parsePort at h
  rw [List.span_eq_takeWhile_dropWhile] at h
  dsimp only at h
  split at h
  · cases h
  · split at h
    · cases h
    · rename_i hrest
      obtain rfl := Except.ok.inj h
      have hhead : (s.dropWhile Char.isDigit).head? ≠ some '\\' := fun hhead =>
        hslash ((List.dropWhile_sublist _).subset (List.mem_of_head? hhead))
      simpa [hhead] using hrest

theorem notMem_authorityText {rest : List Char} : '\\' ∉ authorityText rest := fun hmem =>
  absurd (List.mem_takeWhile_imp hmem) (by decide)

/-- Nothing stands behind the port of an authority without a backslash. -/
theorem snd_eq_nil_of_parseAuthority {scheme : String} {s : List Char} {more : Bool}
    {a : Authority × List Char} (h : parseAuthority scheme .special s more = .ok a)
    (hslash : '\\' ∉ s) : a.2 = [] := by
  have hslash' : '\\' ∉ hostText s := by
    obtain hs | ⟨user, hs⟩ := hostText_spec s
    · rwa [hs]
    · rw [hs] at hslash
      exact fun hmem => hslash (by simp [hmem])
  obtain ⟨host, port, -, hport, rfl⟩ := exists_of_parseAuthority h
  obtain ⟨hnil, -⟩ | ⟨digits, hdigits, htext⟩ := spanHost_spec false (hostText s)
  · rw [hnil] at hport
    obtain rfl := Except.ok.inj hport
    rfl
  · rw [hdigits] at hport
    rw [htext] at hslash'
    exact snd_eq_nil_of_parsePort hport fun hmem => hslash' (by simp [hmem])

/-- No port ends in a control or a blank. -/
theorem parsePort_of_low {c : Char} (hc : IsLow c) {scheme : String} {s : List Char}
    (hlast : s.getLast? = some c) (hslash : '\\' ∉ s) (port : Option Port × List Char) :
    parsePort scheme s ≠ .ok port := by
  have hdigit : c.isDigit = false := hc.of_forall (p := fun c => c.isDigit = false) (by decide)
  unfold parsePort
  rw [List.span_eq_takeWhile_dropWhile]
  dsimp only
  split
  · exact nofun
  · split
    · exact nofun
    · rename_i hrest
      refine absurd ?_ hrest
      have hne : s.dropWhile Char.isDigit ≠ [] := by
        rw [Ne, List.dropWhile_eq_nil_iff]
        intro hall
        have hchar := hall c (List.mem_of_getLast? hlast)
        rw [hdigit] at hchar
        cases hchar
      have hhead : (s.dropWhile Char.isDigit).head? ≠ some '\\' := fun hhead =>
        hslash ((List.dropWhile_sublist _).subset (List.mem_of_head? hhead))
      simp [hne, hhead]

/-- The last character of a text is that of its end, unless it is the one in front of the end. -/
theorem getLast?_of_append_cons {front back : List Char} {c d : Char}
    (h : (front ++ d :: back).getLast? = some c) (hne : c ≠ d) : back.getLast? = some c := by
  cases back with
  | nil =>
    rw [List.getLast?_concat] at h
    exact absurd (Option.some.inj h).symm hne
  | cons e back => rwa [List.getLast?_append, List.getLast?_cons_cons, List.getLast?_cons,
      Option.some_or, ← List.getLast?_cons] at h

/-- An authority that ends in a control or a blank is refused. -/
theorem parseAuthority_of_low {c : Char} (hc : IsLow c) {scheme : String} {s : List Char}
    (hlast : s.getLast? = some c) (hslash : '\\' ∉ s) (a : Authority × List Char) :
    parseAuthority scheme .special s false ≠ .ok a := by
  have hat : c ≠ '@' := hc.of_forall (p := (· ≠ '@')) (by decide)
  have hcolon : c ≠ ':' := hc.of_forall (p := (· ≠ ':')) (by decide)
  -- the host and the port end as the authority does
  obtain ⟨hlast', hslash'⟩ : (hostText s).getLast? = some c ∧ '\\' ∉ hostText s := by
    obtain hs | ⟨user, hs⟩ := hostText_spec s
    · rw [hs]
      exact ⟨hlast, hslash⟩
    · rw [hs] at hlast hslash
      exact ⟨getLast?_of_append_cons hlast hat, fun hmem => hslash (by simp [hmem])⟩
  intro h
  obtain ⟨host, port, hhost, hport, -⟩ := exists_of_parseAuthority h
  obtain ⟨-, hall⟩ | ⟨digits, hrest, htext⟩ := spanHost_spec false (hostText s)
  · rw [hall] at hhost
    exact Host.parseSpecial_of_low hc hlast' host hhost
  · rw [hrest] at hport
    rw [htext] at hlast' hslash'
    exact parsePort_of_low hc (getLast?_of_append_cons hlast' hcolon)
      (fun hmem => hslash' (by simp [hmem])) port hport

/-! ### Authorities read back -/

theorem spanHost_append {inBrackets : Bool} {front : List Char}
    (hfront : ∀ c ∈ front, c ≠ '[' ∧ c ≠ ']' ∧ (c ≠ ':' ∨ inBrackets = true)) (rest : List Char) :
    spanHost inBrackets (front ++ rest) =
      (front ++ (spanHost inBrackets rest).1, (spanHost inBrackets rest).2) := by
  induction front with
  | nil => rfl
  | cons c front ih =>
    rw [List.forall_mem_cons] at hfront
    obtain ⟨⟨hopen, hclose, hcolon⟩, hfront⟩ := hfront
    have hgo : ¬ (decide (c = ':') && !inBrackets) = true := by
      rcases hcolon with hcolon | rfl <;> simp [*]
    rw [List.cons_append, spanHost, if_neg hgo, if_neg hopen, if_neg hclose]
    dsimp only
    rw [ih hfront]
    rfl

/-- A host that was written ends where its text form does. -/
theorem spanHost_render {host : Host} (hhost : host.IsStable) {rest : List Char}
    (hrest : ∀ c ∈ rest.head?, c = ':') :
    spanHost false (host.render.toList ++ rest) = (host.render.toList, rest) := by
  have hstop : spanHost false rest = ([], rest) := by
    cases rest with
    | nil => rfl
    | cons c rest =>
      obtain rfl := hrest c rfl
      rfl
  cases host with
  | name name =>
    have hname : ∀ c, Idna.IsNameChar c → c ≠ '[' ∧ c ≠ ']' ∧ (c ≠ ':' ∨ false = true) :=
      fun c hc => ⟨hc.ne (by decide), hc.ne (by decide), .inl (hc.ne (by decide))⟩
    obtain ⟨⟨text, htext⟩, -⟩ := Host.parseSpecial_eq_name hhost
    rw [Host.render, spanHost_append, hstop, List.append_nil]
    exact fun c hc => hname c ((Idna.toAscii?_toAscii? htext).2 c hc)
  | ipv4 x =>
    rw [Host.render, Ipv4.toList_render, spanHost_append, hstop, List.append_nil]
    exact fun c hc => Ipv4.of_mem_chars
      (p := fun c => c ≠ '[' ∧ c ≠ ']' ∧ (c ≠ ':' ∨ false = true)) (by decide) hc
  | ipv6 x =>
    have htext : (Host.ipv6 x).render.toList ++ rest =
        '[' :: (x.renderCompressed.toList ++ ']' :: rest) := by
      simp [Host.render]
    have hinside : spanHost true (x.renderCompressed.toList ++ ']' :: rest) =
        (x.renderCompressed.toList ++ [']'], rest) := by
      have hclose : spanHost true (']' :: rest) = ([']'], rest) := by
        rw [spanHost]
        simp [hstop]
      rw [spanHost_append, hclose]
      exact fun c hc => Ipv6.of_mem_renderCompressed
        (p := fun c => c ≠ '[' ∧ c ≠ ']' ∧ (c ≠ ':' ∨ true = true)) (by decide) hc
    rw [htext, spanHost]
    simp [hinside, Host.render]

/-- What is written of a port. -/
def portText : Option Port → String
  | some port => ":" ++ toString port.toNat
  | none => ""

/-- A port is read as it was written, unless it is that of the scheme. -/
theorem readPort_portText (scheme : String) (port : Option Port) :
    readPort scheme (portText port).toList =
      .ok (if port = defaultPort? scheme then none else port, []) := by
  cases port with
  | none => simp [portText, readPort]
  | some port =>
    have htext : (portText (some port)).toList = ':' :: (toString port.toNat).toList := by
      simp [portText]
    have hspan : (toString port.toNat).toList.span Char.isDigit =
        ((toString port.toNat).toList, []) := by
      have happend := @Text.span_append Char.isDigit (toString port.toNat).toList []
        (fun _ => Ipv4.isDigit_of_mem_toString) (by simp)
      rwa [List.append_nil] at happend
    have hvalue : Text.ofDigits? 10 (toString port.toNat).toList = some port.toNat := by
      rw [Nat.toString_eq_repr, Nat.toList_repr, Text.ofDigits?_toDigits]
    have hlimit : ¬ port.toNat > Text.maxOfBits 16 :=
      Nat.not_lt.mpr (Nat.le_sub_one_of_lt port.toNat_lt)
    have hdigits : (toString port.toNat).toList.isEmpty = false := by
      simp
    rw [htext, readPort, parsePort, hspan]
    simp only [hvalue, Option.getD_some, hlimit, hdigits, if_false, UInt16.ofNat_toNat]
    rfl

theorem render_eq {a : Authority} {host : Host} (ha : a.host = some host) :
    a.render.toList = a.renderUser.toList ++ (host.render.toList ++ (portText a.port).toList) := by
  cases hport : a.port <;> simp [Authority.render, ha, hport, portText]

theorem renderUser_spec (a : Authority) :
    a.renderUser.toList = [] ∨ ∃ user, a.renderUser.toList = user ++ ['@'] := by
  unfold Authority.renderUser
  split
  · rename_i password _
    exact .inr ⟨(a.username ++ ":" ++ password).toList, by simp⟩
  · split
    · exact .inl rfl
    · exact .inr ⟨a.username.toList, by simp⟩

/-- Behind a user that is written stands what belongs to the host. -/
theorem splitUser?_renderUser (a : Authority) {rest : List Char} (hrest : '@' ∉ rest) :
    hostText (a.renderUser.toList ++ rest) = rest ∧
      userText (a.renderUser.toList ++ rest) = userText a.renderUser.toList := by
  obtain huser | ⟨user, huser⟩ := renderUser_spec a
  · have hnil : '@' ∉ ([] : List Char) := List.not_mem_nil
    rw [huser, List.nil_append, hostText, userText, userText, splitUser?_of_notMem hrest,
      splitUser?_of_notMem hnil]
    exact ⟨rfl, rfl⟩
  · have hempty : '@' ∉ ([] : List Char) := List.not_mem_nil
    rw [huser, List.append_assoc, List.singleton_append, hostText, userText, userText,
      splitUser?_append hrest, splitUser?_append hempty]
    exact ⟨rfl, rfl⟩

/-- What holds of the colon and of digits holds of the characters of a port. -/
theorem of_mem_portText {p : Char → Prop} (h : ":0123456789".toList.Forall p)
    {port : Option Port} {c : Char} (hc : c ∈ (portText port).toList) : p c := by
  obtain ⟨hcolon, hdigits⟩ := (List.forall_cons _ _ _).mp h
  cases port with
  | none => cases hc
  | some port =>
    rw [portText, String.toList_append, List.mem_append] at hc
    rcases hc with hc | hc
    · obtain rfl : c = ':' := by simpa using hc
      exact hcolon
    · exact Text.of_isDigit hdigits (Ipv4.isDigit_of_mem_toString hc)

theorem head?_portText (port : Option Port) : ∀ c ∈ (portText port).toList.head?, c = ':' := by
  cases port with
  | none => exact fun c hc => by cases hc
  | some port =>
    intro c hc
    exact (by simpa [portText] using hc : ':' = c).symm

/-- An authority that was written is read with its user, its host and its port. -/
theorem parseAuthority_render {a : Authority} {host : Host} (ha : a.host = some host)
    (hhost : host.IsStable) (scheme : String) :
    ∃ a', parseAuthority scheme .special a.render.toList false = .ok (a', []) ∧
      (a'.username, a'.password) = parseUser ((userText a.renderUser.toList).getD []) ∧
      a'.host = some host ∧ a'.port = if a.port = defaultPort? scheme then none else a.port := by
  have hat : '@' ∉ host.render.toList ++ (portText a.port).toList := by
    rw [List.mem_append, not_or]
    exact ⟨fun hc => absurd rfl (Host.of_mem_render_of_isStable hhost (p := (· ≠ '@')) (by decide)
        (fun c hc => hc.ne (by decide)) hc),
      fun hc => absurd rfl (of_mem_portText (p := (· ≠ '@')) (by decide) hc)⟩
  have hspan := spanHost_render hhost (head?_portText a.port)
  have hread : parseHost .special host.render.toList = .ok (some host) := by
    have hstable : Host.parseSpecial host.render.toList = .ok host := hhost
    rw [parseHost, if_neg (by simpa using Host.render_ne_nil_of_isStable hhost), hstable]
    · rfl
    · exact nofun
  obtain ⟨hhostText, huserText⟩ := splitUser?_renderUser a hat
  rw [render_eq ha, parseAuthority_special, hhostText, huserText, hspan, hread, readPort_portText]
  exact ⟨_, rfl, rfl, rfl, rfl⟩

end FlowAudit.Url
