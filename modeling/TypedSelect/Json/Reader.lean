import TypedSelect.Json.Token

/-! Reading a JSON text. The tokens are taken one by one; the containers still open are kept
in a stack, the innermost first. Objects come out in the order of their keys, the last of
repeated keys winning. -/
namespace TypedSelect.Json

/-- A container being read, with what it holds so far in reverse. An object remembers the
key whose value is due. -/
inductive Frame where
  | array (items : List Json)
  | object (members : List (String × Json)) (key : String)

/-- What may come next: a value, a key, the colon after a key, a mark after a value, or
nothing any more. Right after an opening bracket the closing one may come as well. -/
inductive Expected where
  | value
  | firstItem
  | firstKey (members : List (String × Json))
  | key (members : List (String × Json))
  | colon
  | separator
  | nothing (result : Json)

def depthLimit : Nat := 127

structure Progress where
  frames : List Frame
  expected : Expected

def Progress.deliver (frames : List Frame) (value : Json) : Progress :=
  match frames with
  | [] => ⟨[], .nothing value⟩
  | .array items :: outer => ⟨.array (value :: items) :: outer, .separator⟩
  | .object members key :: outer => ⟨.object ((key, value) :: members) key :: outer, .separator⟩

def Progress.start (frames : List Frame) (token : Token) : Option Progress :=
  match token with
  | .text value => some (deliver frames (.text value))
  | .plain value => some (deliver frames value)
  | .openArray =>
    if frames.length < depthLimit then some ⟨.array [] :: frames, .firstItem⟩ else none
  | .openObject => if frames.length < depthLimit then some ⟨frames, .firstKey []⟩ else none
  | _ => none

def Progress.step (progress : Progress) (token : Token) : Option Progress :=
  match progress.expected, progress.frames, token with
  | .value, frames, token => start frames token
  | .firstItem, .array [] :: outer, .closeArray => some (deliver outer (.array []))
  | .firstItem, frames, token => start frames token
  | .firstKey _, frames, .closeObject => some (deliver frames (.object []))
  | .firstKey members, frames, .text key => some ⟨.object members key :: frames, .colon⟩
  | .key members, frames, .text key => some ⟨.object members key :: frames, .colon⟩
  | .colon, frames, .colon => some ⟨frames, .value⟩
  | .separator, .array items :: outer, .comma => some ⟨.array items :: outer, .value⟩
  | .separator, .array items :: outer, .closeArray =>
    some (deliver outer (.array items.reverse))
  | .separator, .object members _ :: outer, .comma => some ⟨outer, .key members⟩
  | .separator, .object members _ :: outer, .closeObject =>
    some (deliver outer (.object (inKeyOrder members.reverse)))
  | _, _, _ => none

def read (text : String) : Option Json := do
  let progress ← (← tokens text.toList).foldlM Progress.step ⟨[], .value⟩
  match progress.expected with
  | .nothing result => some result
  | _ => none

end TypedSelect.Json
