import TezosNode.Url.Fault
import TezosNode.Url.Ipv4
import TezosNode.Url.Label

namespace TezosNode.Url

def readLabels (name : List Char) : Option (List (List Char)) := do
  let text ← folded? name
  let labels ← (pieces isDot text).mapM readLabel
  guard (!labels.any isRightward || labels.all keepsDirection)
  pure labels

def readDomain (name : Bytes) : Except UrlFault (List Char) :=
  match name.text?.bind fun text => readLabels text.toList with
  | none => .error .badDomain
  | some labels =>
    let ascii := joined '.' (labels.map asciiLabel)
    if ascii = [] then .error .emptyHost else .ok ascii

end TezosNode.Url
