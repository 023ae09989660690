import DidMessaging.Json.Record

namespace DidMessaging

open Json

structure ChildReference where
  children : String
  deriving DecidableEq, Repr

structure DetachedSignature where
  header : ChildReference
  protectedHeader : String
  signature : String
  deriving DecidableEq, Repr

inductive AttachmentData where
  | signed (content : String) (signature : DetachedSignature)
  | links (targets : List String) (hash : String)
  | base64 (content : String)
  | json (content : String)
  | children (reference : ChildReference)
  deriving DecidableEq, Repr

structure Attachment where
  id : String
  mediaType : Option String := none
  data : AttachmentData
  filenames : Option (List String) := none
  format : Option String := none
  lastModified : Option String := none
  byteCount : Option UInt64 := none
  description : Option String := none
  deriving DecidableEq, Repr

def ChildReference.shape : Shape ChildReference :=
  .record "AttachmentHeader"
    (.cons (.required "children" .text) .nil)
    (fun (children, _) => ⟨children⟩)
    (fun reference => (reference.children, ()))

def DetachedSignature.shape : Shape DetachedSignature :=
  .record "AttachmentJws"
    (.cons (.required "header" ChildReference.shape) <|
      .cons (.required "protected" .text) <|
      .cons (.required "signature" .text) .nil)
    (fun (header, protectedHeader, signature, _) => ⟨header, protectedHeader, signature⟩)
    (fun jws => (jws.header, jws.protectedHeader, jws.signature, ()))

namespace AttachmentData

def signedShape : Shape (String × DetachedSignature) :=
  .record "AttachmentJwsData"
    (.cons (.required "base64" .text) <|
      .cons (.required "jws" DetachedSignature.shape) .nil)
    (fun (content, signature, _) => (content, signature))
    (fun (content, signature) => (content, signature, ()))

def linksShape : Shape (List String × String) :=
  .record "AttachmentLinkData"
    (.cons (.required "links" Shape.text.list) <|
      .cons (.required "hash" .text) .nil)
    (fun (targets, hash, _) => (targets, hash))
    (fun (targets, hash) => (targets, hash, ()))

def textShape (record name : String) : Shape String :=
  .record record (.cons (.required name .text) .nil) (fun (content, _) => content)
    (fun content => (content, ()))

def base64Shape : Shape String := textShape "AttachmentBase64" "base64"

def jsonShape : Shape String := textShape "AttachmentJsonData" "json"

def write : AttachmentData → Json
  | .signed content signature => signedShape.write (content, signature)
  | .links targets hash => linksShape.write (targets, hash)
  | .base64 content => base64Shape.write content
  | .json content => jsonShape.write content
  | .children reference => ChildReference.shape.write reference

/-- The members decide what the data is. A signed content has the member of an unsigned one too, so
the order matters. -/
def variants : List (Json → Option AttachmentData) := [
  fun value => (signedShape.fit value).map fun (content, signature) => .signed content signature,
  fun value => (linksShape.fit value).map fun (targets, hash) => .links targets hash,
  fun value => (base64Shape.fit value).map .base64,
  fun value => (jsonShape.fit value).map .json,
  fun value => (ChildReference.shape.fit value).map .children]

def shape : Shape AttachmentData := .union "AttachmentData" write variants

end AttachmentData

namespace Attachment

def shape : Shape Attachment :=
  .record "AttachmentDescriptor"
    (.cons (.required "id" .text) <|
      .cons (.whenSet "media_type" .text) <|
      .cons (.required "data" AttachmentData.shape) <|
      .cons (.whenSet "filename" Shape.text.list) <|
      .cons (.whenSet "format" .text) <|
      .cons (.whenSet "last_mod_time" .text) <|
      .cons (.whenSet "byte_count" .count) <|
      .cons (.whenSet "description" .text) .nil)
    (fun (id, mediaType, data, filenames, format, lastModified, byteCount, description, _) =>
      ⟨id, mediaType, data, filenames, format, lastModified, byteCount, description⟩)
    (fun a => (a.id, a.mediaType, a.data, a.filenames, a.format, a.lastModified, a.byteCount,
      a.description, ()))

end Attachment

end DidMessaging
