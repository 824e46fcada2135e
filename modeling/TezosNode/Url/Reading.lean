import TezosNode.Url.LocalFile

/-!
Reading a URL, alone or relative to a base. The schemes of the web and of local files take a backslash
for a slash and always have a path.
-/

namespace TezosNode.Url

def withPath (scheme : List Char) (authority : Option Authority) (readPath : List Char → Path)
    (cs : List Char) : Url :=
  let (query, fragment) := readTail (.of scheme) (cs.dropWhile (!isPathEnd ·))
  { scheme, authority, path := readPath (cs.takeWhile (!isPathEnd ·)), query, fragment }

def rootedPath (kind : SchemeKind) (cs : List Char) : Path :=
  if cs = [] ∧ !kind.isSpecial then .segments [] else readPath kind.isSlash cs

def afterSlashes (scheme cs : List Char) : Except UrlFault Url := do
  let kind := SchemeKind.of scheme
  let (authority, rest) ← readAuthority kind cs
  pure (withPath scheme (some authority) (rootedPath kind) rest)

def Path.folder : Path → List (List Char)
  | .segments names => names.dropLast
  | .plain _ => []

def relativeTo (base : Url) (cs : List Char) : Except UrlFault Url :=
  let kind := SchemeKind.of base.scheme
  match cs with
  | [] => .ok { base with fragment := none }
  | '?' :: _ =>
    let (query, fragment) := readTail kind cs
    .ok { base with query, fragment }
  | '#' :: cs => .ok { base with fragment := some (percentEncode inFragment cs) }
  | '/' :: '/' :: cs => afterSlashes base.scheme cs
  | first :: rest =>
    if isAnySlash first then
      if rest.head?.any isAnySlash then afterSlashes base.scheme (rest.dropWhile isAnySlash)
      else .ok (withPath base.scheme base.authority (readSegments kind.isSlash []) rest)
    else
      .ok (withPath base.scheme base.authority
        (readSegments kind.isSlash base.path.folder) cs)

/-- What is after the colon of a scheme; `raw` is the same with the characters that do not count. -/
def readAfterScheme (base : Option Url) (scheme cs raw : List Char) : Except UrlFault Url :=
  match SchemeKind.of scheme with
  | .file => readFile raw
  | .web _ =>
    let slashes := (cs.takeWhile isAnySlash).length
    match base with
    | some base =>
      if base.scheme = scheme ∧ slashes < 2 then relativeTo base cs
      else afterSlashes scheme (cs.drop slashes)
    | none => afterSlashes scheme (cs.drop slashes)
  | .other =>
    match cs with
    | '/' :: '/' :: cs => afterSlashes scheme cs
    | '/' :: _ => .ok (withPath scheme none (readPath (· == '/')) cs)
    | cs => .ok (withPath scheme none (fun cs => .plain (percentEncode isControl cs)) cs)

def readReference (base : Option Url) (text : String) : Except UrlFault Url :=
  let raw := trimmed text.toList
  let cs := kept raw
  match splitScheme cs, base with
  | some (scheme, rest), base => readAfterScheme base scheme rest ((raw.dropWhile (· != ':')).drop 1)
  | none, none => .error .relativeWithoutBase
  | none, some base =>
    match cs, base.path with
    | '#' :: _, _ => relativeTo base cs
    | _, .plain _ => .error .relativeToPlainPath
    | _, .segments _ => relativeTo base cs

def read (text : String) : Except UrlFault Url := readReference none text

def resolve (base : Url) (reference : String) : Except UrlFault Url := readReference (some base) reference

end TezosNode.Url
