import DidMessaging.Message.Basic

namespace DidMessaging

structure Codec where
  pack : Message → Except Error String
  unpack : String → Except Error Message

namespace Codec

def wrap (codec : Codec) (m : Message) : Except Error String := do
  let _ ← m.parties
  codec.pack m

/-- What comes out of an envelope was received, whatever it says of itself. -/
def unwrap (codec : Codec) (envelope : String) : Except Error Message := do
  let m ← codec.unpack envelope
  return { m with direction := .received }

def plain : Codec where
  pack m := .ok (Message.shape.write m).canonical
  unpack envelope := (Message.shape.parse envelope).mapError .json

def failing (codec : Codec) (noKeyFor : List String) (refusal : Option String) : Codec where
  pack m :=
    match m.recipient with
    | some recipient =>
      if noKeyFor.contains recipient then .error (.encryption s!"no key for {recipient}")
      else codec.pack m
    | none => codec.pack m
  unpack envelope :=
    match refusal with
    | some reason => .error (.decryption reason)
    | none => codec.unpack envelope

end Codec

end DidMessaging
