import RequestTracing.Http.Uri
import RequestTracing.Proofs.Header.Spelling
import RequestTracing.Proofs.Text.ReadBack
/-!
The parts of a URL, by their delimiters alone. A target that was read has them delimited, and they
are those that its text divides into.
-/
namespace RequestTracing.Http.Uri

/-- Divides the text of a whole URL: the scheme up to the first colon, the authority after two
slashes, the path up to a question mark and the query up to a number sign. -/
def divide? (url : List Char) : Option Uri := do
  let (scheme, rest) ← Text.cut? ':' url
  let rest ← Text.after? ['/', '/'] rest
  let authority := rest.takeWhile (!endsAuthority ·)
  let rest := rest.drop authority.length
  let path := rest.takeWhile fun c => c ≠ '?' && c ≠ '#'
  let query := match rest.drop path.length with
    | '?' :: query => some (String.ofList (query.takeWhile (· ≠ '#')))
    | _ => none
  return {
    scheme := some (.ofList scheme)
    authority := some (.ofList authority)
    path := .ofList path
    query := query }

/-- Whether each part of a target ends before the mark that would begin the next. -/
structure IsDelimited (uri : Uri) : Prop where
  authority : ∀ authority ∈ uri.authority, ∀ c ∈ authority.toList, endsAuthority c = false
  path : ∀ c ∈ uri.path.toList, c ≠ '?' ∧ c ≠ '#'
  query : ∀ query ∈ uri.query, ∀ c ∈ query.toList, c ≠ '#'
  /-- A whole URL has an authority, and its path starts with a slash if there is one. -/
  whole : uri.scheme.isSome = true →
    uri.authority.isSome = true ∧ ∀ c ∈ uri.path.toList.head?, c = '/'

def queryText (query : Option String) : List Char :=
  match query with
  | some query => '?' :: query.toList
  | none => []

/-- The text of a whole URL from its parts, with what follows them. -/
def spell (uri : Uri) (scheme fragment : List Char) : List Char :=
  scheme ++ ':' :: '/' :: '/' :: ((uri.authority.getD "").toList ++
    (uri.path.toList ++ (queryText uri.query ++ fragment)))

theorem IsDelimited.divide?_spell {uri : Uri} (h : uri.IsDelimited)
    (hwhole : uri.scheme.isSome = true) {scheme fragment : List Char} (hscheme : ':' ∉ scheme)
    (hfragment : ∀ c ∈ fragment.head?, c = '#') :
    divide? (uri.spell scheme fragment) = some { uri with scheme := some (.ofList scheme) } := by
  obtain ⟨hsome, hstart⟩ := h.whole hwhole
  obtain ⟨authority, hauthority⟩ := Option.isSome_iff_exists.mp hsome
  have hqueryHead : ∀ c ∈ (queryText uri.query ++ fragment).head?, c = '?' ∨ c = '#' := by
    cases uri.query with
    | none => exact fun c hc => .inr (hfragment c hc)
    | some query => simp [queryText]
  have hhead : ∀ c ∈ (uri.path.toList ++ (queryText uri.query ++ fragment)).head?,
      (!endsAuthority c) = false := by
    intro c hc
    rw [List.head?_append, Option.mem_def, Option.or_eq_some_iff] at hc
    rcases hc with hc | ⟨_, hc⟩
    · simp [endsAuthority, hstart c hc]
    · rcases hqueryHead c hc with rfl | rfl <;> rfl
  have htake : (authority.toList ++ (uri.path.toList ++
      (queryText uri.query ++ fragment))).takeWhile (!endsAuthority ·) = authority.toList :=
    Text.takeWhile_append_stop (fun c hc => by simp [h.authority authority hauthority c hc]) hhead
  have hpath : (uri.path.toList ++ (queryText uri.query ++ fragment)).takeWhile
      (fun c => c ≠ '?' && c ≠ '#') = uri.path.toList := by
    refine Text.takeWhile_append_stop (fun c hc => by simp [h.path c hc]) fun c hc => ?_
    rcases hqueryHead c hc with rfl | rfl <;> rfl
  have hquery : (match queryText uri.query ++ fragment with
      | '?' :: text => some (String.ofList (text.takeWhile (· ≠ '#')))
      | _ => none) = uri.query := by
    cases hquery : uri.query with
    | none =>
      cases fragment with
      | nil => rfl
      | cons c fragment => simp [queryText, hfragment c rfl]
    | some query =>
      have hall : (query.toList ++ fragment).takeWhile (· ≠ '#') = query.toList :=
        Text.takeWhile_append_stop (fun c hc => by simpa using h.query query hquery c hc)
          fun c hc => by simp [hfragment c hc]
      simp only [queryText, List.cons_append, hall, String.ofList_toList]
  unfold divide? spell
  simp only [Text.cut?_append_cons hscheme, Text.after?, hauthority, Option.getD_some, htake,
    List.drop_left, hpath, hquery, if_true, Option.bind_eq_bind, Option.bind_some, Option.pure_def,
    String.ofList_toList]

/-- What is read of a path and query is what is written, up to a fragment. -/
theorem of_readPath {cs : List Char} {path : String} {query : Option String}
    (h : readPath cs = .ok (path, query)) :
    (∀ c ∈ path.toList, c ≠ '?' ∧ c ≠ '#') ∧ (∀ text ∈ query, ∀ c ∈ text.toList, c ≠ '#') ∧
      ∃ fragment, (∀ c ∈ fragment.head?, c = '#') ∧
        cs = path.toList ++ (queryText query ++ fragment) := by
  simp only [readPath, Text.drop_takeWhile, bind, Except.bind, pure, Except.pure, throw,
    throwThe, MonadExceptOf.throw] at h
  have hpath : ∀ c ∈ cs.takeWhile (fun c => c ≠ '?' && c ≠ '#'), c ≠ '?' ∧ c ≠ '#' :=
    fun c hc => by simpa using List.mem_takeWhile_imp hc
  have hcs := List.takeWhile_append_dropWhile (p := fun c => c ≠ '?' && c ≠ '#') (l := cs)
  split at h
  · cases h
  · split at h
    · rename_i rest hrest
      rw [hrest] at hcs
      split at h
      · cases h
      · obtain ⟨rfl, rfl⟩ := Prod.mk.inj (Except.ok.inj h)
        refine ⟨by simpa using hpath, ?_, rest.dropWhile (· ≠ '#'), ?_, ?_⟩
        · rintro text ⟨⟩ c hc
          rw [String.toList_ofList] at hc
          simpa using List.mem_takeWhile_imp hc
        · exact fun c hc => by simpa using Text.head?_dropWhile _ _ c hc
        · simp only [String.toList_ofList, queryText, List.cons_append,
            List.takeWhile_append_dropWhile]
          exact hcs.symm
    · rename_i hmark
      obtain ⟨rfl, rfl⟩ := Prod.mk.inj (Except.ok.inj h)
      refine ⟨by simpa using hpath, by simp, cs.dropWhile fun c => c ≠ '?' && c ≠ '#', ?_, ?_⟩
      · intro c hc
        have hstop := Text.head?_dropWhile _ _ c hc
        obtain ⟨rest, hrest⟩ := List.head?_eq_some_iff.mp hc
        have hquestion : c ≠ '?' := fun heq => hmark rest (heq ▸ hrest)
        simpa [hquestion] using hstop
      · simp [queryText, List.takeWhile_append_dropWhile]

theorem exists_written {name tail cs : List Char} (hname : ':' ∉ name)
    (h : Text.after? (name ++ [':', '/', '/']) (cs.map Char.toLower) = some tail) :
    ∃ written, written.map Char.toLower = name ∧ ':' ∉ written ∧
      cs = written ++ ':' :: '/' :: '/' :: cs.drop (name.length + 3) := by
  have hstart := (Text.append_of_after?_eq_some h).symm
  rw [List.append_assoc, List.map_eq_append_iff] at hstart
  obtain ⟨written, rest, rfl, rfl, hrest⟩ := hstart
  simp only [List.cons_append, List.nil_append, List.map_eq_cons_iff] at hrest
  obtain ⟨colon, _, rfl, hcolon, first, _, rfl, hfirst, second, rest, rfl, hsecond, _⟩ := hrest
  obtain rfl := eq_of_toLower_eq (by decide) hcolon
  obtain rfl := eq_of_toLower_eq (by decide) hfirst
  obtain rfl := eq_of_toLower_eq (by decide) hsecond
  refine ⟨written, rfl, fun hmem => hname (List.mem_map.mpr ⟨':', hmem, by decide⟩), ?_⟩
  simp [List.drop_append]

/-- The scheme is what is written up to the first colon, in some letter case. -/
theorem of_readScheme {cs rest : List Char} {scheme : String}
    (h : readScheme cs = .ok (some scheme, rest)) :
    ∃ written, Text.lower (.ofList written) = Text.lower scheme ∧ ':' ∉ written ∧
      cs = written ++ ':' :: '/' :: '/' :: rest := by
  have hweb (name : String) {tail : List Char} (hname : ':' ∉ name.toList)
      (hlower : Text.lower name = name)
      (hafter : Text.after? (name.toList ++ [':', '/', '/']) (cs.map Char.toLower) = some tail) :
      ∃ written, Text.lower (.ofList written) = Text.lower name ∧ ':' ∉ written ∧
        cs = written ++ ':' :: '/' :: '/' :: cs.drop (name.toList.length + 3) := by
    obtain ⟨written, hwritten, hcolon, hcs⟩ := exists_written hname hafter
    refine ⟨written, ?_, hcolon, hcs⟩
    rw [hlower, Text.lower, String.toList_ofList, hwritten, String.ofList_toList]
  simp only [readScheme, Text.drop_takeWhile] at h
  split at h
  · rename_i hafter
    obtain ⟨hscheme, rfl⟩ := Prod.mk.inj (Except.ok.inj h)
    exact Option.some.inj hscheme ▸ hweb "http" (by decide) (by decide) hafter
  · rename_i hafter _
    obtain ⟨hscheme, rfl⟩ := Prod.mk.inj (Except.ok.inj h)
    exact Option.some.inj hscheme ▸ hweb "https" (by decide) (by decide) hafter
  · split at h
    · rename_i hmark
      split at h
      · cases h
      · split at h
        · cases h
        · obtain ⟨hscheme, rfl⟩ := Prod.mk.inj (Except.ok.inj h)
          refine ⟨cs.takeWhile isSchemeChar, by rw [Option.some.inj hscheme], ?_, ?_⟩
          · exact fun hmem => absurd (List.mem_takeWhile_imp hmem) (by decide)
          · rw [← hmark, List.takeWhile_append_dropWhile]
    · cases h

/-- Whether a target is one that a text reads as: its parts are delimited, and those of a whole URL
spell the text. -/
structure IsReadOf (uri : Uri) (text : List Char) : Prop where
  isDelimited : uri.IsDelimited
  spelled : uri.scheme.isSome = true → ∃ scheme fragment,
    Text.lower (.ofList scheme) = Text.lower (uri.scheme.getD "") ∧ ':' ∉ scheme ∧
      (∀ c ∈ fragment.head?, c = '#') ∧ text = uri.spell scheme fragment

/-- A target without a leading slash is an authority alone, or it has a scheme and all that may
follow. -/
theorem readFull_cases {cs : List Char} {uri : Uri} (h : readFull cs = .ok uri) :
    ∃ scheme rest, readScheme cs = .ok (scheme, rest) ∧
      ((scheme = none ∧ uri = { authority := some (.ofList (rest.takeWhile (!endsAuthority ·))) }) ∨
        ∃ name path query, scheme = some name ∧
          readPath (rest.dropWhile (!endsAuthority ·)) = .ok (path, query) ∧
          uri = { scheme, authority := some (.ofList (rest.takeWhile (!endsAuthority ·)))
                  path, query }) := by
  simp only [readFull, Text.drop_takeWhile, bind, Except.bind, pure, Except.pure, throw,
    throwThe, MonadExceptOf.throw] at h
  split at h
  · cases h
  · rename_i parts hscheme
    refine ⟨parts.1, parts.2, hscheme, ?_⟩
    split at h
    · cases h
    · split at h
      · cases h
      · split at h
        · rename_i hnone
          split at h
          · cases h
          · exact .inl ⟨hnone, (Except.ok.inj h).symm⟩
        · rename_i name hsome
          split at h
          · cases h
          · split at h
            · cases h
            · rename_i pathQuery hread
              exact .inr ⟨name, pathQuery.1, pathQuery.2, hsome, hread,
                hsome ▸ (Except.ok.inj h).symm⟩

theorem isReadOf_of_readFull {cs : List Char} {uri : Uri} (h : readFull cs = .ok uri) :
    uri.IsReadOf cs := by
  obtain ⟨scheme, rest, hscheme, hparts⟩ := readFull_cases h
  have hend : ∀ c ∈ rest.takeWhile (!endsAuthority ·), endsAuthority c = false :=
    fun c hc => by simpa using List.mem_takeWhile_imp hc
  rcases hparts with ⟨rfl, rfl⟩ | ⟨name, path, query, rfl, hread, rfl⟩
  · exact ⟨⟨by simpa using hend, by simp, by simp, by simp⟩, by simp⟩
  · obtain ⟨hpath, hquery, fragment, hfragment, hrest⟩ := of_readPath hread
    obtain ⟨written, hlower, hcolon, hcs⟩ := of_readScheme hscheme
    -- The path starts where the authority ends, with a slash if it has a character at all.
    have hstart : ∀ c ∈ path.toList.head?, c = '/' := by
      intro c hc
      have hmark := Text.head?_dropWhile (!endsAuthority ·) rest c
      rw [hrest, List.head?_append, hc, Option.some_or] at hmark
      obtain ⟨hquestion, hnumber⟩ := hpath c (List.mem_of_mem_head? hc)
      simpa [endsAuthority, hquestion, hnumber] using hmark rfl
    refine ⟨⟨by simpa using hend, hpath, hquery, fun _ => ⟨rfl, hstart⟩⟩,
      fun _ => ⟨written, fragment, hlower, hcolon, hfragment, ?_⟩⟩
    simp only [spell, ← hrest, Option.getD_some, String.toList_ofList,
      List.takeWhile_append_dropWhile, hcs]

theorem of_readAuthority {cs : List Char} {authority : String}
    (h : readAuthority cs = .ok authority) : ∀ c ∈ authority.toList, endsAuthority c = false := by
  simp only [readAuthority, bind, Except.bind, pure, Except.pure, throw, throwThe,
    MonadExceptOf.throw] at h
  split at h
  · cases h
  · split at h
    · cases h
    · split at h
      · cases h
      · rename_i hend
        obtain rfl := Except.ok.inj h
        simpa using hend

/-- What was read is delimited, and the text of a whole URL is that of its parts. -/
theorem isReadOf_of_read {text : String} {uri : Uri} (h : read text = .ok uri) :
    uri.IsReadOf text.toList := by
  simp only [read, bind, Except.bind, pure, Except.pure] at h
  split at h
  · cases h
  · split at h
    · cases h
    · obtain rfl := Except.ok.inj h
      have hstar : ∀ c ∈ "*".toList, c ≠ '?' ∧ c ≠ '#' := by simp
      exact ⟨⟨by simp, hstar, by simp, by simp⟩, by simp⟩
    · split at h
      · cases h
      · rename_i pathQuery hread
        obtain rfl := Except.ok.inj h
        obtain ⟨hpath, hquery, _⟩ := of_readPath hread
        exact ⟨⟨by simp, hpath, hquery, by simp⟩, by simp⟩
    · split at h
      · cases h
      · rename_i authority hread
        obtain rfl := Except.ok.inj h
        exact ⟨⟨by simpa using of_readAuthority hread, by simp, by simp, by simp⟩, by simp⟩
    · exact isReadOf_of_readFull h

/-- The parts that are read of the text of a whole URL are those that it divides into. -/
theorem divide?_of_read {text : String} {uri : Uri} (h : read text = .ok uri)
    (hwhole : uri.scheme.isSome = true) :
    ∃ scheme, Text.lower scheme = Text.lower (uri.scheme.getD "") ∧
      divide? text.toList = some { uri with scheme := some scheme } := by
  obtain ⟨hdelimited, hspelled⟩ := isReadOf_of_read h
  obtain ⟨scheme, fragment, hlower, hcolon, hfragment, htext⟩ := hspelled hwhole
  exact ⟨.ofList scheme, hlower, htext ▸ hdelimited.divide?_spell hwhole hcolon hfragment⟩

end RequestTracing.Http.Uri
