import FlowScript.Fault
import FlowScript.Text.Base64

/-!
# Node ids

A node's id is made from what its author wrote. A numbered node is `n_` and the
number token as it stands, so `01` and `1` are different nodes. A node that is
known by its label is `t_` and the trimmed label in base 64, so equal labels
are the same node, and the label can be read back from the id. A label with
halves in it has no bytes, and so no id (`labelledRaw`).
-/

namespace FlowScript.Ident

open Text (Halves)

/-- The id of the node with the number token `token`. -/
def numbered (token : Text) : Text :=
  'n' :: '_' :: token

/-- The id of the node with the label `label`, which is whole. -/
def labelled (label : Text) : Text :=
  't' :: '_' :: Text.Base64.encode (Text.Utf8.encode (Text.trim label))

/-- The id of the node with a label that may hold halves. -/
def labelledRaw (h : Halves) (label : Text) : Except Fault Text :=
  match h.encode (Text.trim label) with
  | .ok bytes => .ok ('t' :: '_' :: Text.Base64.encode bytes)
  | .error stray => .error (.unencodable stray)

/-- The number token of a numbered id: digits to the end, or to one last line
    feed. -/
def token? : Text → Option Text
  | 'n' :: '_' :: rest =>
    let (digits, after) := Text.spanDigits rest
    if !digits.isEmpty && (after == [] || after == ['\n']) then some digits else none
  | _ => none

/-- The id is a numbered one. -/
def isNumbered (id : Text) : Bool :=
  (token? id).isSome

/-- The number token of a numbered id, and any other id as it is. -/
def token (id : Text) : Text :=
  (token? id).getD id

/-- The label that symbols in base 64 stand for, if they stand for a text. -/
def decode? (symbols : Text) : Option Text := do
  let bytes ← Text.Base64.decode symbols
  (Text.Utf8.decode bytes).toOption

/-- The label that an id stands for: the token after `n_`, the decoded label
    after `t_`, and the id itself if there is neither. -/
def label (id : Text) : Text :=
  match id with
  | 'n' :: '_' :: rest => if rest.isEmpty then id else rest
  | 't' :: '_' :: symbols => (decode? symbols).getD id
  | _ => id

end FlowScript.Ident
