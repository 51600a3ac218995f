import Catchment.Settings.Document.Error
import Catchment.Text.Decoded

/-!
# `Catchment.Settings.Document.Readable`: how far a text can be read

A document is read in blocks of characters, and a block is not read before something in
it is looked at. Only the first two are read together. A block cannot be read if there is
a character in it that cannot be printed, or if its bytes encode no characters. Whatever
is wrong with the document in front of such a block is met before it.

The bytes of a file are decoded in portions. A portion has more bytes than usual if the
block is likely to need more. A character that is cut off at the end of a portion belongs
to the next one. So does a carriage return there, as a line feed may be behind it.

* `Document.isPrintable`: whether a character may stand in a document.
* `Readable.ofChars`: how far the characters of a text can be read.
* `Readable.ofBytes`: how far the bytes of a file can be read.
-/

set_option autoImplicit false

namespace Catchment

namespace Document

/-- Whether a character may stand in a document. -/
def isPrintable (c : Char) : Bool :=
  let n := c.toNat
  n == 9 || n == 10 || n == 13 || (0x20 ≤ n && n ≤ 0x7E) || n == 0x85 ||
    (0xA0 ≤ n && n ≤ 0xD7FF) || (0xE000 ≤ n && n ≤ 0xFFFD) || 0x10000 ≤ n

/-- The number of characters in a block. -/
def blockLength : Nat := 4096

/-- How many characters have been read before the block in which a character has an index. -/
def lengthBefore (index : Nat) : Nat :=
  let block := index / blockLength
  if block < 2 then 0 else block * blockLength

/-- What of a text can be read. -/
structure Readable where
  chars : List Char
  /-- What is wrong with the text behind these characters. -/
  fault : Option DocumentError
deriving DecidableEq, Repr

namespace Readable

/-- What can be read of characters behind which there may be something wrong. -/
def ofChars (cs : List Char) (fault : Option DocumentError) : Readable :=
  match cs.findIdx? (fun c => !isPrintable c) with
  | some index => ⟨cs.take (lengthBefore index), some .malformed⟩
  | none => ⟨cs, fault⟩

/-- The usual number of bytes in a portion. -/
def portion : Nat := 8192

/-- Bytes one row of which completes a character whose first bytes are there, whatever they
are. -/
def completions : List (List UInt8) :=
  [[0x80], [0x80, 0x80], [0x80, 0x80, 0x80], [0xA0, 0x80], [0x90, 0x80, 0x80]]

/-- Whether bytes are the first ones of a character, or none at all. -/
def isCutOff (bytes : ByteArray) : Bool :=
  bytes.isEmpty || completions.any fun more =>
    (String.fromUTF8? (bytes ++ ⟨more.toArray⟩)).isSome

/-- The characters that the bytes of some portions encode, if they do. What belongs to the next
portion is left out. -/
def decodedFront? (bytes : ByteArray) : Option (List Char) :=
  [0, 1, 2, 3].findSome? fun late =>
    let early := bytes.extract 0 (bytes.size - late)
    if isCutOff (bytes.extract early.size bytes.size) then
      (String.fromUTF8? early).map fun s =>
        evenLineEnds (if s.toList.getLast? = some '\r' then s.toList.dropLast else s.toList)
    else none

/-- The characters in front of the first portion that cannot be decoded, for bytes that encode no
text. So many bytes have been decoded, to these characters, and the next portion has a size. -/
def decodedChars (bytes : ByteArray) (before : Nat) (chars : List Char) (size : Nat) :
    Nat → List Char
  | 0 => chars
  | fuel + 1 =>
    let behind := min (before + size) bytes.size
    match decodedFront? (bytes.extract 0 behind) with
    | none => chars
    | some more =>
      if before = bytes.size then chars
      else
        -- The characters that the block lacks are taken to be as long as those of this portion.
        let missing := blockLength - more.length % blockLength
        let needed := (behind - before) * missing / (more.length - chars.length)
        decodedChars bytes behind more (max portion needed) fuel

/-- What can be read of the bytes of a file. -/
def ofBytes (bytes : ByteArray) : Readable :=
  match decoded? bytes with
  | some text => ofChars text.toList none
  | none =>
    let cs := decodedChars bytes 0 [] portion (bytes.size + 1)
    ofChars (cs.take (lengthBefore cs.length)) (some .notText)

end Readable

end Document

end Catchment
