import TezosNode.Proofs.Client.Endpoints
import TezosNode.Proofs.Url.Queries

namespace TezosNode.Client

open Url

namespace Request

def asks (r : Request) (p : Parameter) : Request :=
  match p.value with
  | some value => r.withParameter p.name value
  | none => r.withFlag p.name

/-- A request after calls, the first of them first. -/
def asking (r : Request) (calls : List Parameter) : Request := calls.foldl asks r

theorem asks_eq (r : Request) (p : Parameter) : r.asks p = { r with parameters := r.parameters ++ [p] } := by
  obtain ⟨name, value⟩ := p
  cases value <;> rfl

theorem asking_eq (r : Request) (calls : List Parameter) :
    r.asking calls = { r with parameters := r.parameters ++ calls } := by
  induction calls generalizing r with
  | nil => simp [asking]
  | cons p calls ih =>
    have behind : r.asking (p :: calls) = (r.asks p).asking calls := rfl
    rw [behind, ih, asks_eq, List.append_assoc]
    rfl

theorem url_asking {r : Request} (silent : r.parameters = []) (calls : List Parameter) (base : Url) :
    (r.asking calls).url base = (r.url base).map (·.withParameters calls) := by
  rw [asking_eq, url, url, silent, List.nil_append]
  cases base.resolve r.path <;> rfl

end Request

def pairsAsked (query : List Char) : Option (List (String × String)) :=
  (readForm query).map (·.map Parameter.pair)

/-- A URL with a query for the calls, and otherwise as without one. -/
structure Asks (calls : List Parameter) (plain asked : Url) : Prop where
  rest : { asked with query := none } = plain
  text : asked.text = plain.text ++ String.ofList (optionalPart '?' asked.query)
  silent : asked.query = none ↔ calls = []
  pairs : ∀ query ∈ asked.query, pairsAsked query = some (calls.map Parameter.pair)
  /-- Between the ampersands an equals sign stands once for a value, and not for a flag. -/
  equals : ∀ query ∈ asked.query,
    (pieces (· == '&') query).map (·.count '=') = calls.map fun p => if p.value.isSome then 1 else 0

theorem asks_of_bare {calls : List Parameter} (written : ∀ p ∈ calls, p.IsWritten) {plain : Url}
    (bare : plain.query = none ∧ plain.fragment = none) : Asks calls plain (plain.withParameters calls) := by
  obtain ⟨query, fragment⟩ := bare
  have same : (plain.withParameters calls).query =
      if calls = [] then none else some (joined '&' (calls.map Parameter.text)) :=
    query_withParameters query written
  have present {own : List Char} (found : own ∈ (plain.withParameters calls).query) :
      calls ≠ [] ∧ own = joined '&' (calls.map Parameter.text) := by
    rw [same] at found
    split at found
    · cases found
    · next nonempty =>
      cases found
      exact ⟨nonempty, rfl⟩
  refine ⟨?rest, ?text, ?silent, ?pairs, ?equals⟩
  case rest =>
    rw [← query, withParameters]
    split <;> rfl
  case text =>
    have whole : (plain.withParameters calls).toList =
        plain.toList ++ optionalPart '?' (plain.withParameters calls).query := by
      simp [toList, front, query, fragment, optionalPart]
    rw [Url.text, whole, String.ofList_append, Url.text]
  case silent =>
    rw [same]
    split <;> simp [*]
  case pairs =>
    intro own found
    obtain ⟨nonempty, rfl⟩ := present found
    rw [pairsAsked, readForm_joined nonempty written]
    rfl
  case equals =>
    intro own found
    obtain ⟨nonempty, rfl⟩ := present found
    rw [pieces_query nonempty, List.map_map]
    exact List.map_congr_left fun p _ => p.count_equals

/-- Parameters reach the node as they were given. A path that starts with a single slash and has no blank of
those that do not count always leads to it. -/
theorem parameters_arrive {s : Settings} {c : Client} (accepted : ofSettings s = .ok c) {r : Request}
    (silent : r.parameters = []) {cs : List Char} (path : r.path = String.ofList ('/' :: cs))
    (bare : IsBare cs) {calls : List Parameter} (written : ∀ p ∈ calls, p.IsWritten) :
    ((∀ first ∈ cs.head?, isAnySlash first = false) → (∀ c ∈ cs, isDropped c = false) →
      ∃ asked, (r.asking calls).url c.base = .ok asked) ∧
    ∀ asked, (r.asking calls).url c.base = .ok asked →
      ∃ plain, r.url c.base = .ok plain ∧ Asks calls plain asked := by
  obtain ⟨rooted, _⟩ := ofSettings_base accepted
  have resolved : r.url c.base = c.base.resolve (String.ofList ('/' :: cs)) := by
    rw [Request.url, path, silent]
    cases c.base.resolve (String.ofList ('/' :: cs)) <;> rfl
  rw [r.url_asking silent]
  constructor
  · intro single counts
    obtain ⟨plain, found⟩ := resolve_single rooted counts single
    exact ⟨_, by rw [resolved, found]; rfl⟩
  · intro asked led
    obtain ⟨plain, found, rfl⟩ := map_ok led
    exact ⟨plain, found, asks_of_bare written (resolve_bare rooted bare (resolved.symm.trans found))⟩

/-- A flag, separators and signs that have a meaning of their own, and nothing at all, asked of a node whose
base has a query and a fragment. -/
theorem parameters_arrive_mixed :
    let calls : List Parameter := [⟨"monitor", none⟩, ⟨"a&b", some "=+%41 \u00e9"⟩, ⟨"", some ""⟩]
    ∃ c, ofSettings { base := "http://[::1]:8732/x?y#z" } = .ok c ∧
      ∃ plain asked, (Request.get "/a").url c.base = .ok plain ∧
        ((Request.get "/a").asking calls).url c.base = .ok asked ∧ Asks calls plain asked := by
  intro calls
  have accepted : ofSettings { base := "http://[::1]:8732/x?y#z" } = .ok ⟨⟨"http".toList,
      some ⟨[], [], some (.ipv6 [0, 0, 0, 0, 0, 0, 0, 1]), some 8732⟩, .segments ["x".toList],
      some "y".toList, some "z".toList⟩, defaultUserAgent, none, false⟩ := by rfl
  have written : ∀ p ∈ calls, p.IsWritten := by simp [calls, Parameter.IsWritten]
  have bare : IsBare ['a'] := by simp [IsBare, isPathEnd]
  obtain ⟨leads, arrives⟩ := parameters_arrive accepted (r := .get "/a") rfl rfl bare written
  obtain ⟨asked, found⟩ := leads (by simp [isAnySlash]) (by simp [isDropped])
  obtain ⟨plain, without, same⟩ := arrives asked found
  exact ⟨_, accepted, plain, asked, without, found, same⟩

example : (((Request.get "/a").asking [⟨"monitor", none⟩, ⟨"a&b", some "=+%41 \u00e9"⟩, ⟨"", some ""⟩]).url
    ⟨"http".toList, some ⟨[], [], some (.ipv6 [0, 0, 0, 0, 0, 0, 0, 1]), some 8732⟩, .segments ["x".toList],
      none, none⟩).map toList = .ok "http://[::1]:8732/a?monitor&a%26b=%3D%2B%2541+%C3%A9&=".toList := by
  rfl

end TezosNode.Client
