import TezosNode.Url.Parts
import TezosNode.Url.Segments

namespace TezosNode.Url

def splitFirst (cs : List Char) : Option (Char × List Char) :=
  match cs.dropWhile isDropped with
  | [] => none
  | c :: rest => some (c, rest)

def asDrive (segment : List Char) : List Char :=
  if isDrive segment then segment.take 1 ++ [':'] else segment

/-- The drive in front of a segment from which a dropped character divides it, and the rest. -/
def dividedDrive? (raw : List Char) : Option (List Char × List Char) :=
  match kept raw with
  | letter :: ':' :: c :: rest =>
    if letter.isAlpha && ((raw.dropWhile (· != ':')).drop 1).head?.any isDropped then
      some ([letter, ':'], c :: rest)
    else none
  | _ => none

def addFileSegment (isLast : Bool) (before : List (List Char)) (raw : List Char) :
    List (List Char) :=
  match before, dividedDrive? raw with
  | [], some (drive, rest) => [percentEncode inPath rest, drive]
  | before, _ => addSegment isLast before (kept raw)

def dropEmptyFront : List (List Char) → List (List Char)
  | [] :: segment :: rest => dropEmptyFront (segment :: rest)
  | segments => segments

def readFilePath (raw : List (List Char)) : Path :=
  .segments (dropEmptyFront (addSegments addFileSegment [] raw).reverse)

/-- A URL from the first segment of its path on. Where the path begins with a drive that takes the
place of a host, that is spelled in the usual way. -/
def fileUrl (host : Option Host) (mayBeDrive : Bool) (cs : List Char) : Url :=
  let (query, fragment) := readTail .file (kept (cs.dropWhile (!isPathEnd ·)))
  let raw := pieces isAnySlash (cs.takeWhile (!isPathEnd ·))
  match raw with
  | first :: rest =>
    if mayBeDrive && isDrive (kept first) then
      { scheme := "file".toList, authority := some {}
        path := readFilePath (asDrive (kept first) :: rest), query, fragment }
    else
      { scheme := "file".toList, authority := some { host }, path := readFilePath raw, query, fragment }
  | [] => { scheme := "file".toList, authority := some { host }, path := readFilePath [], query, fragment }

def readFileHost (cs : List Char) : Except UrlFault (Option Host) :=
  if cs = [] then .ok none
  else (Host.read cs).map fun host => if host = .domain "localhost".toList then none else some host

def afterFileSlashes (cs : List Char) : Except UrlFault Url := do
  let own := kept (cs.takeWhile (!endsAuthority .file ·))
  if isDrive own then pure (fileUrl none true cs)
  else
    let host ← readFileHost own
    match cs.dropWhile (!endsAuthority .file ·) with
    | c :: rest => pure (fileUrl host host.isSome (if isAnySlash c then rest else c :: rest))
    | [] => pure (fileUrl host false [])

def readFile (cs : List Char) : Except UrlFault Url :=
  match splitFirst cs with
  | none => .ok (fileUrl none false [])
  | some (first, rest) =>
    if isAnySlash first then
      match splitFirst rest with
      | some (second, inner) =>
        if isAnySlash second then afterFileSlashes inner else .ok (fileUrl none false rest)
      | none => .ok (fileUrl none false [])
    else .ok (fileUrl none true cs)

end TezosNode.Url
