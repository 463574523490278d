/-
  JsonSchema.Json.Reader — reading a document.

  A machine takes the tokens one by one. It holds the arrays and objects that are open, the
  innermost first, and what may come next (`Phase`). Objects keep their members in order and
  the last of equal keys. At most `depthLimit` arrays and objects may be open at once.

  A broken token counts only where a token like it may come; elsewhere the document is
  malformed before the token is looked into.
-/

import JsonSchema.Json.Token

namespace JsonSchema.Json

def depthLimit : Nat := 127

namespace Reader

/-- An open array with its items, the last first; an open object with its members, and the key
    whose value is being read. -/
inductive Frame where
  | array (items : List Json)
  | object (members : Members) (key : String)

inductive Phase where
  | value
  | itemOrEnd
  | keyOrEnd
  | key
  | colon
  | commaOrEnd
  | nothing (result : Json)

structure State where
  frames : List Frame
  phase : Phase

def start : State := ⟨[], .value⟩

/-- A finished value goes into the innermost open array or object, or is the document. -/
def complete (frames : List Frame) (value : Json) : State :=
  match frames with
  | [] => ⟨[], .nothing value⟩
  | .array items :: outer => ⟨.array (value :: items) :: outer, .commaOrEnd⟩
  | .object members key :: outer => ⟨.object (insert key value members) key :: outer, .commaOrEnd⟩

def startValue (frames : List Frame) : Token → Except ReadError State
  | .scalar value => .ok (complete frames value)
  | .string text => .ok (complete frames (.string text))
  | .openArray => if frames.length < depthLimit then .ok ⟨.array [] :: frames, .itemOrEnd⟩ else .error .malformed
  | .openObject =>
    if frames.length < depthLimit then .ok ⟨.object [] "" :: frames, .keyOrEnd⟩ else .error .malformed
  | .broken _ e => .error e
  | _ => .error .malformed

def startKey (frames : List Frame) : Token → Except ReadError State
  | .string text =>
    match frames with
    | .object members _ :: outer => .ok ⟨.object members text :: outer, .colon⟩
    | _ => .error .malformed
  | .broken true e => .error e
  | _ => .error .malformed

def close (frames : List Frame) : Token → Except ReadError State
  | .closeArray =>
    match frames with
    | .array items :: outer => .ok (complete outer (.array items.reverse))
    | _ => .error .malformed
  | .closeObject =>
    match frames with
    | .object members _ :: outer => .ok (complete outer (.object members))
    | _ => .error .malformed
  | _ => .error .malformed

def afterComma (frames : List Frame) : Except ReadError State :=
  match frames with
  | .array _ :: _ => .ok ⟨frames, .value⟩
  | .object _ _ :: _ => .ok ⟨frames, .key⟩
  | [] => .error .malformed

def step (s : State) (token : Token) : Except ReadError State :=
  match s.phase, token with
  | .value, t => startValue s.frames t
  | .itemOrEnd, .closeArray => close s.frames .closeArray
  | .itemOrEnd, t => startValue s.frames t
  | .keyOrEnd, .closeObject => close s.frames .closeObject
  | .keyOrEnd, t => startKey s.frames t
  | .key, t => startKey s.frames t
  | .colon, .colon => .ok ⟨s.frames, .value⟩
  | .colon, _ => .error .malformed
  | .commaOrEnd, .comma => afterComma s.frames
  | .commaOrEnd, t => close s.frames t
  | .nothing _, _ => .error .malformed

def run : State → List Token → Except ReadError State
  | s, [] => .ok s
  | s, t :: rest =>
    match step s t with
    | .error e => .error e
    | .ok s => run s rest

end Reader

def ofBytes (bytes : Bytes) : Except ReadError Json :=
  match Reader.run Reader.start (tokens bytes) with
  | .error e => .error e
  | .ok s =>
    match s.phase with
    | .nothing value => .ok value
    | _ => .error .truncated

def ofText (text : String) : Except ReadError Json := ofBytes (Bytes.ofText text)

end JsonSchema.Json
