import TezosNode.Proofs.Outcome
import TezosNode.Proofs.Url.Form
import TezosNode.Proofs.Url.Resolution

namespace TezosNode.Url

namespace Parameter

/-- Whether something is written for the parameter: only a flag without a name leaves no trace. -/
def IsWritten (p : Parameter) : Prop := p.value = none → p.name ≠ ""

def pair (p : Parameter) : String × String := (p.name, p.value.getD "")

theorem formEncode_ne_nil {s : String} (present : s ≠ "") : formEncode s ≠ [] := by
  have whole := formDecode_formEncode s
  intro nothing
  rw [nothing] at whole
  exact present (Option.some.inj whole).symm

theorem text_ne_nil {p : Parameter} (written : p.IsWritten) : p.text ≠ [] := by
  obtain ⟨name, value⟩ := p
  cases value with
  | none => exact formEncode_ne_nil (written rfl)
  | some value => simp [text]

theorem count_equals (p : Parameter) : p.text.count '=' = if p.value.isSome then 1 else 0 := by
  have none_inside (s : String) : (formEncode s).count '=' = 0 :=
    List.count_eq_zero.mpr fun inside => (formEncode_separators inside).2 rfl
  obtain ⟨name, value⟩ := p
  cases value with
  | none => exact none_inside name
  | some value => simp [text, none_inside]

end Parameter

section

variable {ps : List Parameter}

theorem foldl_appendParameter {query : List Char} (present : query ≠ []) (ps : List Parameter) :
    ps.foldl appendParameter query = query ++ (ps.map Parameter.text).flatMap ('&' :: ·) := by
  induction ps generalizing query with
  | nil => simp
  | cons p ps ih =>
    have longer : query ++ '&' :: p.text ≠ [] := by simp
    rw [List.foldl_cons, appendParameter, if_neg present, ih longer, List.map_cons, List.flatMap_cons,
      List.append_assoc]

theorem foldl_appendParameter_nil (written : ∀ p ∈ ps, p.IsWritten) :
    ps.foldl appendParameter [] = joined '&' (ps.map Parameter.text) := by
  cases ps with
  | nil => rfl
  | cons p ps =>
    have first : p.text ≠ [] := Parameter.text_ne_nil (written p List.mem_cons_self)
    rw [List.foldl_cons, appendParameter, if_pos rfl, foldl_appendParameter first, List.map_cons]
    cases ps with
    | nil => simp [joined]
    | cons next ps => rw [flatMap_separator (by simp), joined_cons '&' p.text (by simp)]

theorem pieces_query (present : ps ≠ []) :
    pieces (· == '&') (joined '&' (ps.map Parameter.text)) = ps.map Parameter.text := by
  apply pieces_joined (by simpa using present) rfl
  intro text among c inside
  obtain ⟨p, _, rfl⟩ := List.mem_map.mp among
  simpa using Parameter.text_undivided inside

theorem mapM_read (ps : List Parameter) : (ps.map Parameter.text).mapM Parameter.read = some ps := by
  induction ps with
  | nil => rfl
  | cons p ps ih =>
    rw [List.map_cons, List.mapM_cons, Parameter.read_text, ih]
    rfl

theorem readForm_joined (present : ps ≠ []) (written : ∀ p ∈ ps, p.IsWritten) :
    readForm (joined '&' (ps.map Parameter.text)) = some ps := by
  have kept : (ps.map Parameter.text).filter (!·.isEmpty) = ps.map Parameter.text := by
    apply List.filter_eq_self.mpr
    intro text among
    obtain ⟨p, member, rfl⟩ := List.mem_map.mp among
    simpa using Parameter.text_ne_nil (written p member)
  rw [readForm, pieces_query present, kept, mapM_read]

theorem query_withParameters {url : Url} (bare : url.query = none) (written : ∀ p ∈ ps, p.IsWritten) :
    (url.withParameters ps).query = if ps = [] then none else some (joined '&' (ps.map Parameter.text)) := by
  rw [withParameters]
  split
  · exact bare
  · simp only [bare, Option.getD_none, foldl_appendParameter_nil written]

end

section

variable {cs : List Char}

def IsBare (cs : List Char) : Prop := ∀ c ∈ cs, isPathEnd c = false

theorem IsBare.sublist {front : List Char} (bare : IsBare cs) (sub : front.Sublist cs) : IsBare front :=
  fun c member => bare c (sub.subset member)

theorem withPath_bare (bare : IsBare cs) (scheme : List Char) (authority : Option Authority)
    (readPath : List Char → Path) :
    (withPath scheme authority readPath cs).query = none ∧
      (withPath scheme authority readPath cs).fragment = none := by
  have nothing : cs.dropWhile (!isPathEnd ·) = [] :=
    List.dropWhile_eq_nil_iff.mpr fun c member => by simp [bare c member]
  rw [withPath, nothing]
  exact ⟨rfl, rfl⟩

theorem splitPort_suffix (bracketed : Bool) (cs : List Char) : (splitPort bracketed cs).2 <:+ cs := by
  induction cs generalizing bracketed with
  | nil => exact List.suffix_rfl
  | cons c cs ih =>
    rw [splitPort]
    split
    · exact List.suffix_rfl
    · exact (ih _).trans (List.suffix_cons c cs)

theorem readPort_suffix {kind : SchemeKind} {port : Option Nat} {left : List Char}
    (found : readPort kind cs = .ok (port, left)) : left <:+ cs := by
  simp only [readPort] at found
  split at found
  · cases found
  · split at found
    · cases found
    · split at found
      · cases found
        exact List.dropWhile_suffix _
      · cases found
        exact List.dropWhile_suffix _

theorem readHost_suffix {kind : SchemeKind} {host : Option Host} {port : Option Nat} {left : List Char}
    (found : readHost kind cs = .ok (host, port, left)) : left <:+ cs := by
  have behind := splitPort_suffix false cs
  simp only [readHost] at found
  split at found
  · split at found
    · cases found
    · cases found
      exact List.nil_suffix
  · -- Whatever kind of host is read, the port behind it is read in the same way.
    split at found
    all_goals
      obtain ⟨own, _, found⟩ := bind_ok found
      split at found
      · cases found
        exact List.nil_suffix
      · next colon digits rest =>
        obtain ⟨_, ported, found⟩ := bind_ok found
        cases found
        rw [rest] at behind
        exact ((readPort_suffix ported).trans (List.suffix_cons colon digits)).trans behind

theorem splitUserinfo_suffix {user own : List Char} (divided : splitUserinfo cs = some (user, own)) :
    own <:+ cs := by
  simp only [splitUserinfo] at divided
  split at divided
  · cases divided
    rw [← List.reverse_prefix, List.reverse_reverse]
    exact List.takeWhile_prefix _
  · cases divided

theorem readAuthority_sublist {kind : SchemeKind} {authority : Authority} {rest : List Char}
    (found : readAuthority kind cs = .ok (authority, rest)) : rest.Sublist cs := by
  have whole : cs.takeWhile (!endsAuthority kind ·) ++ cs.dropWhile (!endsAuthority kind ·) = cs :=
    List.takeWhile_append_dropWhile
  have joins {left : List Char} (sub : left.Sublist (cs.takeWhile (!endsAuthority kind ·))) :
      (left ++ cs.dropWhile (!endsAuthority kind ·)).Sublist cs := by
    conv_rhs => rw [← whole]
    exact sub.append_right _
  simp only [readAuthority] at found
  split at found
  · obtain ⟨⟨host, port, left⟩, hosted, found⟩ := bind_ok found
    cases found
    exact joins (readHost_suffix hosted).sublist
  · next user own divided =>
    split at found
    · cases found
    · obtain ⟨⟨host, port, left⟩, hosted, found⟩ := bind_ok found
      split at found
      · cases found
      · cases found
        exact joins ((readHost_suffix hosted).sublist.trans (splitUserinfo_suffix divided).sublist)

theorem afterSlashes_bare (bare : IsBare cs) {scheme : List Char} {url : Url}
    (found : afterSlashes scheme cs = .ok url) : url.query = none ∧ url.fragment = none := by
  obtain ⟨⟨authority, rest⟩, read, found⟩ := bind_ok found
  cases found
  exact withPath_bare (bare.sublist (readAuthority_sublist read)) _ _ _

/-- More slashes than one lead to an authority. -/
theorem relativeTo_slashes (base : Url) {first : Char} (slash : isAnySlash first = true) (cs : List Char) :
    ∃ more, more <:+ cs ∧ relativeTo base ('/' :: first :: cs) = afterSlashes base.scheme more := by
  by_cases plain : first = '/'
  · subst plain
    exact ⟨cs, List.suffix_rfl, rfl⟩
  · refine ⟨cs.dropWhile isAnySlash, List.dropWhile_suffix _, ?_⟩
    have leading : isAnySlash '/' = true := rfl
    rw [relativeTo]
    · simp only [leading, if_true, List.head?_cons, Option.any_some, slash, List.dropWhile_cons]
    · decide
    · decide
    · intro rest _ same
      exact plain (List.cons.inj same).1

theorem relativeTo_bare (bare : IsBare cs) {base url : Url}
    (found : relativeTo base ('/' :: cs) = .ok url) : url.query = none ∧ url.fragment = none := by
  cases cs with
  | nil =>
    cases found
    exact withPath_bare bare _ _ _
  | cons first cs =>
    cases slash : isAnySlash first with
    | false =>
      rw [relativeTo_slash base slash] at found
      cases found
      exact withPath_bare bare _ _ _
    | true =>
      obtain ⟨more, end_, leads⟩ := relativeTo_slashes base slash cs
      rw [leads] at found
      exact afterSlashes_bare (bare.sublist (end_.sublist.trans (List.sublist_cons_self _ _))) found

theorem resolve_bare {base : Url} (rooted : base.path.IsRooted) (bare : IsBare cs) {url : Url}
    (found : base.resolve (String.ofList ('/' :: cs)) = .ok url) : url.query = none ∧ url.fragment = none := by
  rw [resolve_slash rooted] at found
  have counted : (kept (cs.rdropWhile isOuterBlank)).Sublist cs :=
    List.filter_sublist.trans (List.rdropWhile_prefix _ cs).sublist
  exact relativeTo_bare (bare.sublist counted) found

/-- A reference with one slash in front and nothing that does not count always stands for a URL. -/
theorem resolve_single {base : Url} (rooted : base.path.IsRooted) (counts : ∀ c ∈ cs, isDropped c = false)
    (single : ∀ first ∈ cs.head?, isAnySlash first = false) :
    ∃ url, base.resolve (String.ofList ('/' :: cs)) = .ok url := by
  have whole : kept (cs.rdropWhile isOuterBlank) = cs.rdropWhile isOuterBlank := by
    apply List.filter_eq_self.mpr
    intro c member
    simp [counts c ((List.rdropWhile_prefix _ cs).subset member)]
  obtain ⟨behind, split⟩ := List.rdropWhile_prefix isOuterBlank cs
  rw [resolve_slash rooted, whole]
  cases front : cs.rdropWhile isOuterBlank with
  | nil => exact ⟨_, rfl⟩
  | cons first rest =>
    have leads : first ∈ cs.head? := by
      rw [← split, front]
      rfl
    exact ⟨_, relativeTo_slash base (single first leads) rest⟩

end

end TezosNode.Url
