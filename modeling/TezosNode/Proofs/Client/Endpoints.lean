import Mathlib.Data.List.Forall2
import TezosNode.Client.Call
import TezosNode.Client.Endpoint
import TezosNode.Client.Settings
import TezosNode.Proofs.Url.Queries

/-!
The URLs of the endpoints. The path of an endpoint begins with one slash and a letter, so that its request
never leaves the node of the client. Arguments are not encoded where they stand in a path: exactly those
that are literal there are found again as one segment.
-/

namespace TezosNode.Client

open Url

def isWordChar (c : Char) : Bool := c.isAlpha || c == '_'

def isWord (cs : List Char) : Bool := cs.all isWordChar

/-- What makes a character mean nothing but itself, wherever it stands in a path. -/
structure Inert (c : Char) : Prop where
  ascii : isAscii c = true
  unencoded : inPath c = false
  single : isAnySlash c = false
  inside : isPathEnd c = false
  counts : isDropped c = false
  solid : isOuterBlank c = false
  percent : c ≠ '%'

theorem wordChar_inert {c : Char} (word : isWordChar c = true) : Inert c := by
  have small : c.toNat < 128 := by
    change ((decide (c.val ≥ 'A'.val ∧ c.val ≤ 'Z'.val) ||
      (decide (c.val ≥ 'a'.val) && decide (c.val ≤ 'z'.val))) || c == '_') = true at word
    simp only [Bool.or_eq_true, Bool.and_eq_true, decide_eq_true_eq, beq_iff_eq, UInt32.le_iff_toNat_le] at word
    rcases word with (upper | lower) | rfl
    · exact Nat.lt_of_le_of_lt upper.2 (by decide)
    · exact Nat.lt_of_le_of_lt lower.2 (by decide)
    · decide
  have all : ∀ c : Char, c.toNat < 128 → isWordChar c = true →
      isAscii c = true ∧ inPath c = false ∧ isAnySlash c = false ∧ isPathEnd c = false ∧
        isDropped c = false ∧ isOuterBlank c = false ∧ c ≠ '%' :=
    of_code_below (by decide)
  obtain ⟨ascii, unencoded, single, inside, counts, solid, percent⟩ := all c small word
  exact ⟨ascii, unencoded, single, inside, counts, solid, percent⟩

section

variable {cs : List Char}

theorem inert_of_isWord (word : isWord cs = true) {c : Char} (member : c ∈ cs) : Inert c :=
  wordChar_inert (List.all_eq_true.mp word c member)

theorem percentEncode_word (word : isWord cs = true) : percentEncode inPath cs = cs := by
  induction cs with
  | nil => rfl
  | cons c cs ih =>
    obtain ⟨first, rest⟩ := Bool.and_eq_true_iff.mp word
    have inert := wordChar_inert first
    rw [percentEncode_cons, inert.ascii, inert.unencoded, ih rest]
    rfl

theorem meaning_word (word : isWord cs = true) : meaning cs = Bytes.ofChars cs := by
  induction cs with
  | nil => rfl
  | cons c cs ih =>
    obtain ⟨first, rest⟩ := Bool.and_eq_true_iff.mp word
    rw [meaning, Bytes.ofChars_cons, percentDecode_char (wordChar_inert first).percent]
    exact congrArg (String.utf8EncodeChar c ++ ·) (ih rest)

theorem isLiteral_word (word : isWord cs = true) : IsLiteral cs := by
  have plain : ∀ c ∈ cs, isAnySlash c = false ∧ isPathEnd c = false ∧ isDropped c = false := by
    intro c member
    have inert := inert_of_isWord word member
    exact ⟨inert.single, inert.inside, inert.counts⟩
  refine ⟨plain, meaning_word word, ?_⟩
  intro dots
  have dot : '.' ∈ cs := by
    simp only [List.mem_cons, List.not_mem_nil, or_false] at dots
    rcases dots with rfl | rfl
    · decide
    · decide
  exact absurd (List.all_eq_true.mp word _ dot) (by decide)

theorem endsSolid_word (word : isWord cs = true) : endsSolid cs = true := by
  cases last : cs.getLast? with
  | none => simp [endsSolid, last]
  | some c => simp [endsSolid, last, (inert_of_isWord word (List.mem_of_getLast? last)).solid]

end

/-- What stands in a path for a segment: for a fixed one its name, and for an argument something that is
read as it after percent-decoding. -/
def Segment.Written : Segment → List Char → Prop
  | fixed name, written => written = name.toList
  | argument text, written => meaning written = Bytes.ofString text

def Segment.isNamed : Segment → Bool
  | fixed name => isWord name.toList
  | argument _ => true

namespace Endpoint

def Asks (e : Endpoint) (query : Option (List Char)) : Prop :=
  query.map readForm = if e.parameters = [] then none else some (some e.parameters)

/-- A URL with the segments and the parameters of an endpoint, one by one, and nothing else. -/
structure Framed (e : Endpoint) (url : Url) : Prop where
  path : ∃ names, url.path = .segments names ∧ List.Forall₂ Segment.Written e.segments names
  query : e.Asks url.query
  fragment : url.fragment = none

/-- The arguments in the path are literal, and no blank ends one that ends the path. -/
structure IsPlain (e : Endpoint) : Prop where
  literal : ∀ text, .argument text ∈ e.segments → IsLiteral text.toList
  solid : ∀ text, e.segments.getLast? = some (.argument text) → endsSolid text.toList = true

theorem words (e : Endpoint) : ∀ name, .fixed name ∈ e.segments → isWord name.toList = true := by
  have all : e.segments.all Segment.isNamed = true := by
    cases e with
    | votes chain block question => cases question <;> rfl
    | _ => rfl
  intro name member
  exact List.all_eq_true.mp all _ member

def texts (e : Endpoint) : List (List Char) := e.segments.map (·.text.toList)

theorem texts_cons (e : Endpoint) : ∃ c cs rest, isWordChar c = true ∧ e.texts = (c :: cs) :: rest := by
  cases e <;> exact ⟨_, _, _, by decide, rfl⟩

theorem texts_ne_nil (e : Endpoint) : e.texts ≠ [] := by
  obtain ⟨c, cs, rest, _, first⟩ := e.texts_cons
  simp [first]

theorem toList_path (e : Endpoint) : e.path.toList = '/' :: joined '/' e.texts := by
  have slashed (segments : List Segment) :
      (String.join (segments.map fun s => "/" ++ s.text)).toList =
        (segments.map (·.text.toList)).flatMap ('/' :: ·) := by
    rw [String.toList_join, List.flatMap_map, List.flatMap_map]
    simp
  rw [path, slashed]
  exact flatMap_separator e.texts_ne_nil

theorem parameters_written (e : Endpoint) : ∀ p ∈ e.parameters, p.IsWritten := by
  have valued (name value : String) : (Parameter.mk name (some value)).IsWritten := nofun
  have optional (parameter : String → Parameter) (written : ∀ text, (parameter text).IsWritten)
      (argument : Option String) : ∀ p ∈ optionalParameter parameter argument, p.IsWritten := by
    cases argument with
    | none => nofun
    | some text =>
      rw [optionalParameter]
      split
      · nofun
      · exact List.forall_mem_singleton.mpr (written text)
  cases e with
  | networkPeers filter => exact optional _ (fun _ => valued _ _) filter
  | networkPoints filter => exact optional _ (fun _ => valued _ _) filter
  | monitorOperations chain pool => exact optional _ (fun _ => valued _ _) pool
  | connectPoint address timeout =>
    cases timeout with
    | none => nofun
    | some d =>
      simp only [parameters, timeoutParameter]
      split
      · nofun
      · exact List.forall_mem_singleton.mpr (valued _ _)
  | monitorPeerLog id => exact List.forall_mem_singleton.mpr fun _ => by decide
  | monitorPointLog address => exact List.forall_mem_singleton.mpr fun _ => by decide
  | _ => nofun

theorem asks_withParameters (e : Endpoint) {url : Url} (bare : url.query = none) :
    e.Asks (url.withParameters e.parameters).query := by
  rw [Asks, query_withParameters bare e.parameters_written]
  split
  · rfl
  · next present => exact congrArg some (readForm_joined present e.parameters_written)

theorem request_url (e : Endpoint) (base : Url) :
    e.request.url base = (base.resolve e.path).map (·.withParameters e.parameters) := by
  cases e <;> rfl

theorem resolves (e : Endpoint) {base : Url} (rooted : base.path.IsRooted)
    (special : (SchemeKind.of base.scheme).isSpecial = true) :
    ∃ url, e.request.url base = .ok url ∧ url.scheme = base.scheme ∧ url.authority = base.authority ∧
      url.path = readSegments isAnySlash [] (pathText (joined '/' e.texts)) ∧
      (pathText (joined '/' e.texts) = joined '/' e.texts → e.Asks url.query ∧ url.fragment = none) := by
  obtain ⟨c, cs, rest, word, first⟩ := e.texts_cons
  have inert := wordChar_inert word
  have front : ∃ more, joined '/' e.texts = c :: more := by
    rw [first]
    cases rest with
    | nil => exact ⟨cs, rfl⟩
    | cons next rest => exact ⟨_, joined_cons '/' (c :: cs) (by simp)⟩
  obtain ⟨more, text⟩ := front
  have path : e.path = String.ofList ('/' :: c :: more) := by
    rw [← text, ← toList_path, String.ofList_toList]
  obtain ⟨url, found, scheme, authority, segments, tail⟩ :=
    resolve_path rooted special inert.solid inert.single more
  rw [request_url, path, found, text]
  refine ⟨_, rfl, ?_, ?_, ?_, ?_⟩
  · simpa using scheme
  · simpa using authority
  · simpa using segments
  · intro whole
    obtain ⟨query, fragment⟩ := tail whole
    exact ⟨e.asks_withParameters query, by simpa using fragment⟩

theorem isPlain_iff (e : Endpoint) :
    e.IsPlain ↔ (∀ text ∈ e.texts, IsLiteral text) ∧ endsSolid (joined '/' e.texts) = true := by
  obtain ⟨last, found⟩ : ∃ last, e.segments.getLast? = some last := by
    cases empty : e.segments.getLast? with
    | none =>
      have nothing := List.getLast?_eq_none_iff.mp empty
      exact absurd (by rw [texts, nothing]; rfl) e.texts_ne_nil
    | some last => exact ⟨last, rfl⟩
  have ends : endsSolid (joined '/' e.texts) = endsSolid last.text.toList := by
    apply endsSolid_joined
    rw [texts, List.getLast?_map, found]
    rfl
  rw [ends]
  constructor
  · rintro ⟨literal, solid⟩
    constructor
    · intro text member
      obtain ⟨s, among, rfl⟩ := List.mem_map.mp member
      cases s with
      | fixed name => exact isLiteral_word (e.words name among)
      | argument text => exact literal text among
    · cases last with
      | fixed name => exact endsSolid_word (e.words name (List.mem_of_getLast? found))
      | argument text => exact solid text found
  · rintro ⟨literal, solid⟩
    constructor
    · intro text among
      exact literal _ (List.mem_map_of_mem among)
    · intro text final
      cases found.symm.trans final
      exact solid

theorem meant_of_written {segments : List Segment} {names : List (List Char)}
    (words : ∀ name, .fixed name ∈ segments → isWord name.toList = true)
    (written : List.Forall₂ Segment.Written segments names) :
    names.map meaning = (segments.map (·.text.toList)).map Bytes.ofChars := by
  induction written with
  | nil => rfl
  | @cons s name segments names first rest ih =>
    have meant : meaning name = Bytes.ofChars s.text.toList := by
      cases s with
      | fixed own =>
        cases first
        exact meaning_word (words own List.mem_cons_self)
      | argument text => exact first.trans (Bytes.ofString_eq_ofChars text)
    rw [List.map_cons, meant, ih fun other member => words other (List.mem_cons_of_mem _ member)]
    rfl

theorem written_of_literal (e : Endpoint) (literal : ∀ text ∈ e.texts, IsLiteral text) :
    List.Forall₂ Segment.Written e.segments (e.texts.map (percentEncode inPath)) := by
  rw [texts, List.map_map, List.forall₂_map_right_iff, List.forall₂_same]
  intro s among
  cases s with
  | fixed name => exact percentEncode_word (e.words name among)
  | argument text =>
    calc
      meaning (percentEncode inPath text.toList) = meaning text.toList := meaning_percentEncode _
      _ = Bytes.ofChars text.toList := (literal _ (List.mem_map_of_mem among)).meant
      _ = Bytes.ofString text := (Bytes.ofString_eq_ofChars text).symm

end Endpoint

theorem ofSettings_base {s : Settings} {c : Client} (accepted : ofSettings s = .ok c) :
    c.base.path.IsRooted ∧ (SchemeKind.of c.base.scheme).isSpecial = true := by
  cases found : Url.read s.base with
  | error fault =>
    simp only [ofSettings, found] at accepted
    cases accepted
  | ok base =>
    simp only [ofSettings, found] at accepted
    split at accepted
    · next supported =>
      cases accepted
      have special : (SchemeKind.of base.scheme).isSpecial = true := by
        simp only [isSupported, Bool.or_eq_true, decide_eq_true_eq] at supported
        rcases supported with http | https
        · rw [http]
          decide
        · rw [https]
          decide
      exact ⟨read_rooted found special, special⟩
    · cases accepted

/-- Whatever the arguments are, the request of an endpoint begins, and with the node of the client. -/
theorem endpoint_confined {s : Settings} {c : Client} (accepted : ofSettings s = .ok c) (e : Endpoint)
    (next : UInt64) :
    ∃ url, c.begin next e.request = (.ok ⟨next, e.request.method, url⟩, next + 1) ∧
      url.scheme = c.base.scheme ∧ url.authority = c.base.authority := by
  obtain ⟨rooted, special⟩ := ofSettings_base accepted
  obtain ⟨url, found, scheme, authority, _⟩ := e.resolves rooted special
  exact ⟨url, by rw [begin, found], scheme, authority⟩

/-- Arguments that look like a way up, an authority, a query and a fragment. -/
theorem endpoint_confined_evading :
    ∃ c, ofSettings { base := "http://a:b@[::1]:8732/x?y#z" } = .ok c ∧
      ∃ url, c.begin 7 (Endpoint.block "..//@other:1" "\\\\other\t?#").request = (.ok ⟨7, "GET", url⟩, 8) ∧
        url.scheme = "http".toList ∧
        url.authority = some ⟨"a".toList, "b".toList, some (.ipv6 [0, 0, 0, 0, 0, 0, 0, 1]), some 8732⟩ := by
  have accepted : ofSettings { base := "http://a:b@[::1]:8732/x?y#z" } = .ok ⟨⟨"http".toList,
      some ⟨"a".toList, "b".toList, some (.ipv6 [0, 0, 0, 0, 0, 0, 0, 1]), some 8732⟩,
      .segments ["x".toList], some "y".toList, some "z".toList⟩, defaultUserAgent, none, false⟩ := by rfl
  obtain ⟨url, begun, scheme, authority⟩ :=
    endpoint_confined accepted (.block "..//@other:1" "\\\\other\t?#") 7
  exact ⟨_, accepted, url, begun, scheme, authority⟩

/-- The URL of an endpoint has its segments and its parameters and nothing else exactly if its arguments are
plain. -/
theorem arguments_framed_iff {s : Settings} {c : Client} (accepted : ofSettings s = .ok c) (e : Endpoint) :
    ∃ url, e.request.url c.base = .ok url ∧ (e.Framed url ↔ e.IsPlain) := by
  obtain ⟨rooted, special⟩ := ofSettings_base accepted
  obtain ⟨url, found, _, _, path, rest⟩ := e.resolves rooted special
  refine ⟨url, found, ?_⟩
  rw [e.isPlain_iff]
  constructor
  · rintro ⟨⟨names, segments, written⟩, _, _⟩
    exact literal_of_meant e.texts_ne_nil (path.symm.trans segments) (Endpoint.meant_of_written e.words written)
  · rintro ⟨literal, solid⟩
    have whole := pathText_joined literal solid
    rw [whole, readSegments_literal e.texts_ne_nil literal] at path
    obtain ⟨query, fragment⟩ := rest whole
    exact ⟨⟨_, path, e.written_of_literal literal⟩, query, fragment⟩

/-- The address of a point on the same machine, with a time limit. -/
theorem arguments_framed_point :
    let e : Endpoint := .connectPoint "[::1]:9732" (some (.ofMilliseconds 1500))
    ∃ c, ofSettings { base := "http://[::1]:8732" } = .ok c ∧
      ∃ url, e.request.url c.base = .ok url ∧ e.Framed url := by
  intro e
  have accepted : ofSettings { base := "http://[::1]:8732" } = .ok ⟨⟨"http".toList,
      some ⟨[], [], some (.ipv6 [0, 0, 0, 0, 0, 0, 0, 1]), some 8732⟩, .segments [[]], none, none⟩,
      defaultUserAgent, none, false⟩ := by rfl
  have plain : e.IsPlain := by
    constructor
    · intro text member
      have same : text = "[::1]:9732" := by simpa [e, Endpoint.segments, Endpoint.point] using member
      subst same
      exact ⟨by simp [isAnySlash, isPathEnd, isDropped], rfl, by decide⟩
    · intro text last
      cases last
      decide
  obtain ⟨url, found, framed⟩ := arguments_framed_iff accepted e
  exact ⟨_, accepted, url, found, framed.mpr plain⟩

/-- A slash in an argument divides its segment. -/
theorem argument_divided :
    ¬∀ (s : Settings) (c : Client), ofSettings s = .ok c → ∀ e : Endpoint,
      (∀ text, .argument text ∈ e.segments → text ≠ "") →
      ∃ url, e.request.url c.base = .ok url ∧ e.Framed url := by
  intro always
  let base : Url := ⟨"http".toList, some ⟨[], [], some (.ipv6 [0, 0, 0, 0, 0, 0, 0, 1]), some 8732⟩,
    .segments [[]], none, none⟩
  have accepted : ofSettings { base := "http://[::1]:8732" } = .ok ⟨base, defaultUserAgent, none, false⟩ := by
    rfl
  have present : ∀ text, .argument text ∈ (Endpoint.networkPeer "a/b").segments → text ≠ "" := by
    intro text member
    have same : text = "a/b" := by simpa [Endpoint.segments, Endpoint.peer] using member
    subst same
    decide
  obtain ⟨url, found, framed⟩ := always _ _ accepted (.networkPeer "a/b") present
  have divided : (Endpoint.networkPeer "a/b").request.url base = .ok ⟨base.scheme, base.authority,
      .segments ["network".toList, "peers".toList, "a".toList, "b".toList], none, none⟩ := by rfl
  cases divided.symm.trans found
  obtain ⟨names, path, written⟩ := framed.path
  cases path
  exact absurd written.length_eq (by decide)

end TezosNode.Client
