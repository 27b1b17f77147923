import Templating.Digest.Sha256
import Templating.Model

/-!
Fingerprints of compile requests.

A fingerprint is the digest of a framed triple: the text of the template, the name of its file
and the name of its model type.  Every field that is present is led by a mark and by its
length, and an absent one is another mark alone, so that no text can move from one field to
another without changing the bytes.
-/

namespace Templating

structure Fingerprint where
  digest : Sha256.Digest
deriving DecidableEq, Repr

namespace Fingerprint

/-- The bytes of a number of 64 bits, the lowest first. -/
def littleEndian (value : Nat) : List UInt8 :=
  (List.range 8).map fun index => UInt8.ofNat (value >>> (8 * index))

/-- A field: a mark, and for a present one the count of its bytes and the bytes. -/
def frame : Option String → List UInt8
  | none => [0]
  | some text => 1 :: littleEndian text.utf8ByteSize ++ text.toUTF8.data.toList

def framed (content : String) (fileName : Option String) (modelType : ModelType) : List UInt8 :=
  frame (some content) ++ frame fileName ++ frame (some modelType.name)

def compute (content : String) (fileName : Option String) (modelType : ModelType) : Fingerprint :=
  ⟨Sha256.hash (framed content fileName modelType)⟩

/-- The text of a fingerprint, which can serve as the name of a template. -/
def text (fingerprint : Fingerprint) : String :=
  "tpl_" ++ String.ofList fingerprint.digest.hex

end Fingerprint
end Templating
