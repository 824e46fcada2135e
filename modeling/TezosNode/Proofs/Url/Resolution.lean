import Mathlib.Data.List.DropRight
import Mathlib.Data.List.TakeWhile
import TezosNode.Proofs.Url.Segments
import TezosNode.Url.Reading

/-!
References that begin with one slash. Whatever follows, only their path is read and what comes after it:
scheme and authority are those of the base. Texts between slashes are found again as the segments of the
path exactly if each is literal and no blank ends the last one.
-/

namespace TezosNode.Url

def Path.IsRooted (path : Path) : Prop := ∃ names, path = .segments names

theorem fileUrl_rooted (host : Option Host) (mayBeDrive : Bool) (cs : List Char) :
    (fileUrl host mayBeDrive cs).path.IsRooted := by
  simp only [fileUrl]
  split
  · split
    · exact ⟨_, rfl⟩
    · exact ⟨_, rfl⟩
  · exact ⟨_, rfl⟩

theorem afterFileSlashes_rooted {cs : List Char} {url : Url} (found : afterFileSlashes cs = .ok url) :
    url.path.IsRooted := by
  simp only [afterFileSlashes] at found
  split at found
  · cases found
    exact fileUrl_rooted _ _ _
  · cases host : readFileHost (kept (cs.takeWhile (!endsAuthority .file ·))) with
    | error fault => rw [host] at found; cases found
    | ok host' =>
      simp only [host, bind, Except.bind] at found
      split at found
      · cases found
        exact fileUrl_rooted _ _ _
      · cases found
        exact fileUrl_rooted _ _ _

theorem readFile_rooted {cs : List Char} {url : Url} (found : readFile cs = .ok url) : url.path.IsRooted := by
  rw [readFile] at found
  split at found
  · cases found
    exact fileUrl_rooted _ _ _
  · split at found
    · split at found
      · split at found
        · exact afterFileSlashes_rooted found
        · cases found
          exact fileUrl_rooted _ _ _
      · cases found
        exact fileUrl_rooted _ _ _
    · cases found
      exact fileUrl_rooted _ _ _

theorem readPath_rooted (isSlash : Char → Bool) (cs : List Char) : (readPath isSlash cs).IsRooted := by
  cases cs with
  | nil => exact ⟨_, rfl⟩
  | cons c cs => exact ⟨_, rfl⟩

theorem afterSlashes_ok {scheme cs : List Char} {url : Url} (found : afterSlashes scheme cs = .ok url) :
    url.scheme = scheme ∧ ((SchemeKind.of scheme).isSpecial = true → url.path.IsRooted) := by
  cases read : readAuthority (.of scheme) cs with
  | error fault =>
    rw [afterSlashes, read] at found
    cases found
  | ok pair =>
    rw [afterSlashes, read] at found
    cases found
    refine ⟨rfl, fun special => ?_⟩
    change (rootedPath (.of scheme) _).IsRooted
    rw [rootedPath, special, if_neg (by simp)]
    exact readPath_rooted _ _

theorem read_rooted {text : String} {url : Url} (found : read text = .ok url)
    (special : (SchemeKind.of url.scheme).isSpecial = true) : url.path.IsRooted := by
  cases divided : splitScheme (kept (trimmed text.toList)) with
  | none =>
    simp only [read, readReference, divided] at found
    cases found
  | some parts =>
    obtain ⟨scheme, rest⟩ := parts
    simp only [read, readReference, divided, readAfterScheme] at found
    cases kind : SchemeKind.of scheme with
    | file =>
      simp only [kind] at found
      exact readFile_rooted found
    | web port =>
      simp only [kind] at found
      exact (afterSlashes_ok found).2 (by rw [kind]; rfl)
    | other =>
      have unknown : url.scheme ≠ scheme := by
        rintro rfl
        rw [kind] at special
        cases special
      simp only [kind] at found
      split at found
      · exact absurd (afterSlashes_ok found).1 unknown
      · cases found
        exact absurd rfl unknown
      · cases found
        exact absurd rfl unknown

theorem rdropWhile_cons {p : Char → Bool} {c : Char} (solid : p c = false) (cs : List Char) :
    (c :: cs).rdropWhile p = c :: cs.rdropWhile p := by
  rw [List.rdropWhile, List.rdropWhile, List.reverse_cons, List.dropWhile_append]
  split
  · next empty =>
    rw [List.isEmpty_iff.mp empty]
    simp [solid]
  · rw [List.reverse_append]
    rfl

theorem trimmed_cons {c : Char} (solid : isOuterBlank c = false) (cs : List Char) :
    trimmed (c :: cs) = c :: cs.rdropWhile isOuterBlank := by
  rw [trimmed, List.dropWhile_cons_of_neg (by simp [solid])]
  exact rdropWhile_cons solid cs

theorem isDropped_of_solid {c : Char} (solid : isOuterBlank c = false) : isDropped c = false := by
  cases dropped : isDropped c with
  | false => rfl
  | true =>
    have three : (c = '\t' ∨ c = '\n') ∨ c = '\r' := by
      simpa only [isDropped, Bool.or_eq_true, beq_iff_eq] using dropped
    rcases three with (rfl | rfl) | rfl
    · cases solid
    · cases solid
    · cases solid

theorem kept_cons {c : Char} (solid : isOuterBlank c = false) (cs : List Char) :
    kept (c :: cs) = c :: kept cs :=
  List.filter_cons_of_pos (by simp [isDropped_of_solid solid])

theorem relativeTo_slash (base : Url) {first : Char} (single : isAnySlash first = false) (cs : List Char) :
    relativeTo base ('/' :: first :: cs) =
      .ok (withPath base.scheme base.authority (readSegments (SchemeKind.of base.scheme).isSlash [])
        (first :: cs)) := by
  have other : first ≠ '/' := by
    rintro rfl
    cases single
  have slash : isAnySlash '/' = true := rfl
  rw [relativeTo]
  · simp only [slash, if_true, List.head?_cons, Option.any_some, single, Bool.false_eq_true, if_false]
  · decide
  · decide
  · intro rest _ same
    exact other (List.cons.inj same).1

theorem resolve_slash {base : Url} (rooted : base.path.IsRooted) (cs : List Char) :
    base.resolve (String.ofList ('/' :: cs)) = relativeTo base ('/' :: kept (cs.rdropWhile isOuterBlank)) := by
  obtain ⟨names, path⟩ := rooted
  have text : kept (trimmed (String.ofList ('/' :: cs)).toList) = '/' :: kept (cs.rdropWhile isOuterBlank) := by
    rw [String.toList_ofList, trimmed_cons (by decide), kept_cons (by decide)]
  have relative : splitScheme ('/' :: kept (cs.rdropWhile isOuterBlank)) = none := rfl
  simp only [resolve, readReference, text, relative, path]
  rfl

/-- Of a reference with one slash in front the path is read, and what comes after it. -/
theorem resolve_rooted {base : Url} (rooted : base.path.IsRooted) {first : Char}
    (solid : isOuterBlank first = false) (single : isAnySlash first = false) (cs : List Char) :
    base.resolve (String.ofList ('/' :: first :: cs)) =
      .ok (withPath base.scheme base.authority (readSegments (SchemeKind.of base.scheme).isSlash [])
        (kept ((first :: cs).rdropWhile isOuterBlank))) := by
  rw [resolve_slash rooted, rdropWhile_cons solid, kept_cons solid]
  exact relativeTo_slash base single _

/-- What of a text is read as a path. -/
def pathText (cs : List Char) : List Char := (kept (cs.rdropWhile isOuterBlank)).takeWhile (!isPathEnd ·)

theorem pathText_sublist (cs : List Char) : (pathText cs).Sublist cs :=
  ((List.takeWhile_sublist _).trans List.filter_sublist).trans (List.rdropWhile_prefix _ cs).sublist

def endsSolid (cs : List Char) : Bool := cs.getLast?.all (!isOuterBlank ·)

theorem endsSolid_iff {cs : List Char} : endsSolid cs = true ↔ cs.rdropWhile isOuterBlank = cs := by
  rw [List.rdropWhile_eq_self_iff, endsSolid]
  cases cs with
  | nil => simp
  | cons c cs => simp [List.getLast?_eq_getLast_of_ne_nil (List.cons_ne_nil c cs)]

theorem endsSolid_joined {texts : List (List Char)} {last : List Char}
    (found : texts.getLast? = some last) : endsSolid (joined '/' texts) = endsSolid last := by
  have present : texts ≠ [] := by
    rintro rfl
    cases found
  induction texts, present using List.recNeNil with
  | singleton text =>
    cases found
    rfl
  | cons text rest more ih =>
    have later : rest.getLast? = some last := by
      obtain ⟨next, others, rfl⟩ := List.exists_cons_of_ne_nil more
      rwa [List.getLast?_cons_cons] at found
    rw [← ih later, joined_cons '/' text more, endsSolid, endsSolid, List.getLast?_append, List.getLast?_cons]
    cases (joined '/' rest).getLast? with
    | none => rfl
    | some c => rfl

theorem mem_joined_of_mem {separator c : Char} {texts : List (List Char)} {text : List Char}
    (among : text ∈ texts) (inside : c ∈ text) : c ∈ joined separator texts := by
  have present := List.ne_nil_of_mem among
  induction texts, present using List.recNeNil with
  | singleton first =>
    cases List.mem_singleton.mp among
    exact inside
  | cons first rest more ih =>
    rw [joined_cons separator first more]
    rcases List.mem_cons.mp among with rfl | later
    · exact List.mem_append_left _ inside
    · exact List.mem_append_right _ (List.mem_cons_of_mem _ (ih later))

theorem mem_joined {separator c : Char} {texts : List (List Char)} (member : c ∈ joined separator texts) :
    c = separator ∨ ∃ text ∈ texts, c ∈ text := by
  have present : texts ≠ [] := by
    rintro rfl
    cases member
  have inside : c ∈ texts.flatMap (separator :: ·) := by
    rw [flatMap_separator present]
    exact List.mem_cons_of_mem _ member
  obtain ⟨text, among, here⟩ := List.mem_flatMap.mp inside
  rcases List.mem_cons.mp here with same | own
  · exact .inl same
  · exact .inr ⟨text, among, own⟩

theorem pathText_eq_iff {cs : List Char} :
    pathText cs = cs ↔ (∀ c ∈ cs, isPathEnd c = false ∧ isDropped c = false) ∧ endsSolid cs = true := by
  constructor
  · intro whole
    have trimmed := List.rdropWhile_prefix isOuterBlank cs
    have filtered : (kept (cs.rdropWhile isOuterBlank)).Sublist (cs.rdropWhile isOuterBlank) :=
      List.filter_sublist
    have taken : (pathText cs).Sublist (kept (cs.rdropWhile isOuterBlank)) := List.takeWhile_sublist _
    rw [whole] at taken
    have solid : cs.rdropWhile isOuterBlank = cs :=
      trimmed.sublist.antisymm (taken.trans filtered)
    rw [solid] at filtered taken
    have counts : kept cs = cs := filtered.antisymm taken
    rw [pathText, solid, counts] at whole
    refine ⟨fun c member => ⟨?_, ?_⟩, endsSolid_iff.mpr solid⟩
    · simpa using List.takeWhile_eq_self_iff.mp whole c member
    · simpa using List.filter_eq_self.mp counts c member
  · rintro ⟨plain, solid⟩
    have counts : kept cs = cs := List.filter_eq_self.mpr fun c member => by simp [(plain c member).2]
    rw [pathText, endsSolid_iff.mp solid, counts]
    exact List.takeWhile_eq_self_iff.mpr fun c member => by simp [(plain c member).1]

theorem pathText_rest {cs : List Char} (whole : pathText cs = cs) :
    (kept (cs.rdropWhile isOuterBlank)).dropWhile (!isPathEnd ·) = [] := by
  have counted : (kept (cs.rdropWhile isOuterBlank)).length ≤ cs.length :=
    (List.filter_sublist.trans (List.rdropWhile_prefix _ cs).sublist).length_le
  have parts : pathText cs ++ (kept (cs.rdropWhile isOuterBlank)).dropWhile (!isPathEnd ·) =
      kept (cs.rdropWhile isOuterBlank) := List.takeWhile_append_dropWhile
  have lengths := congrArg List.length parts
  rw [List.length_append, whole] at lengths
  exact List.eq_nil_of_length_eq_zero (by omega)

theorem resolve_path {base : Url} (rooted : base.path.IsRooted)
    (special : (SchemeKind.of base.scheme).isSpecial = true) {first : Char}
    (solid : isOuterBlank first = false) (single : isAnySlash first = false) (cs : List Char) :
    ∃ url, base.resolve (String.ofList ('/' :: first :: cs)) = .ok url ∧
      url.scheme = base.scheme ∧ url.authority = base.authority ∧
      url.path = readSegments isAnySlash [] (pathText (first :: cs)) ∧
      (pathText (first :: cs) = first :: cs → url.query = none ∧ url.fragment = none) := by
  have slashes : (SchemeKind.of base.scheme).isSlash = isAnySlash := by
    funext c
    rw [SchemeKind.isSlash, special]
    rfl
  refine ⟨_, resolve_rooted rooted solid single cs, rfl, rfl, ?_, ?_⟩
  · rw [slashes]
    rfl
  · intro whole
    rw [withPath, pathText_rest whole]
    exact ⟨rfl, rfl⟩

/-- A text that is read as itself where it stands between slashes. -/
structure IsLiteral (text : List Char) : Prop where
  whole : ∀ c ∈ text, isAnySlash c = false ∧ isPathEnd c = false ∧ isDropped c = false
  meant : meaning text = Bytes.ofChars text
  named : text ∉ [['.'], ['.', '.']]

section

variable {texts : List (List Char)}

theorem isDots_of_isLiteral {text : List Char} (literal : IsLiteral text) : isDots text = false := by
  cases dots : isDots text with
  | false => rfl
  | true =>
    have named := (isDots_iff literal.meant).mp dots
    exact absurd (by simpa using named) literal.named

theorem pathText_joined (literal : ∀ text ∈ texts, IsLiteral text)
    (solid : endsSolid (joined '/' texts) = true) : pathText (joined '/' texts) = joined '/' texts := by
  apply pathText_eq_iff.mpr
  refine ⟨?_, solid⟩
  intro c member
  rcases mem_joined member with rfl | ⟨text, among, inside⟩
  · decide
  · exact ((literal text among).whole c inside).2

theorem readSegments_literal (present : texts ≠ []) (literal : ∀ text ∈ texts, IsLiteral text) :
    readSegments isAnySlash [] (joined '/' texts) = .segments (texts.map (percentEncode inPath)) := by
  apply readSegments_joined rfl present
  · intro text among c inside
    exact ((literal text among).whole c inside).1
  · intro text among
    exact isDots_of_isLiteral (literal text among)

theorem literal_of_meant {names : List (List Char)} (present : texts ≠ [])
    (found : readSegments isAnySlash [] (pathText (joined '/' texts)) = .segments names)
    (meant : names.map meaning = texts.map Bytes.ofChars) :
    (∀ text ∈ texts, IsLiteral text) ∧ endsSolid (joined '/' texts) = true := by
  obtain ⟨whole, undivided, plain⟩ := nothing_lost rfl present (pathText_sublist _) found meant
  obtain ⟨counts, solid⟩ := pathText_eq_iff.mp whole
  rw [whole, readSegments_joined rfl present undivided plain] at found
  cases found
  have same : ∀ text ∈ texts, meaning text = Bytes.ofChars text := by
    rw [List.map_map] at meant
    intro text among
    rw [← meaning_percentEncode]
    exact List.map_inj_left.mp meant text among
  refine ⟨?_, solid⟩
  intro text among
  constructor
  · intro c inside
    exact ⟨undivided text among c inside, counts c (mem_joined_of_mem among inside)⟩
  · exact same text among
  · intro named
    have dots := (isDots_iff (same text among)).mpr (by simpa using named)
    rw [plain text among] at dots
    cases dots

end

end TezosNode.Url
