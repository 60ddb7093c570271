/-
  Identifiers derived from a text.

  * `Identifier.stamped`: the first sixteen octets of the digest, with the version nibble and
    the variant bits of a random identifier;
  * `Identifier.layout`: the order in which octets are written: the first three groups run
    backwards;
  * `stableIdentifier`: the identifier in five groups of hexadecimal digits;
  * `digestKey`: sixteen hexadecimal digits of the digest.

  Both are for texts that have a form in UTF-8 (`Text.utf8Error?`): whoever makes one of another
  text refuses it first.
-/
import CompileCommands.Digest.Sha256
import CompileCommands.Text.Hex

namespace CompileCommands

open Text

namespace Identifier

/-- The octets of an identifier: sixteen octets of a digest, version 4 in the high half of
    octet 7, variant bits `10` in octet 8. -/
def stamped (digest : Bytes) : Bytes :=
  ((digest.take 16).modify 7 fun b => (b &&& 0x0F) ||| 0x40).modify 8 fun b =>
    (b &&& 0x3F) ||| 0x80

/-- The groups of an identifier: which octets they show, in which order. -/
def layout : List (List Nat) :=
  [[3, 2, 1, 0], [5, 4], [7, 6], [8, 9], [10, 11, 12, 13, 14, 15]]

/-- Octets in the layout of an identifier. -/
def format (bytes : Bytes) : List Char :=
  List.intercalate ['-'] (layout.map fun group => hexBytes (group.map (bytes.getD · 0)))

end Identifier

/-- The identifier of a text. Equal texts have equal identifiers on every host. -/
def stableIdentifier (value : String) : String :=
  String.ofList (Identifier.format (Identifier.stamped (Sha256.digest (utf8Bytes value))))

/-- Sixteen hexadecimal digits that stand for a text in file names. -/
def digestKey (value : String) : String :=
  String.ofList ((hexBytes (Sha256.digest (utf8Bytes value))).take 16)

end CompileCommands
