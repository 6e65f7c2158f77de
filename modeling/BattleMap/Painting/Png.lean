import BattleMap.Painting.Pixels

namespace BattleMap

/-!
# Paintings as image files

A painting is written as an indexed image: a palette of its four colours, and
one byte for each pixel.  The rows go into the file without compression, in
blocks of limited length, since a preview need not be small.  An image file is a
sequence of chunks, each protected by a checksum, and the rows have a checksum
of their own.
-/

namespace Png

/-- The four bytes of a word, the highest first. -/
def wordBytes (word : UInt32) : List UInt8 :=
  [(word >>> 24).toUInt8, (word >>> 16).toUInt8, (word >>> 8).toUInt8, word.toUInt8]

/-- The two bytes of a length, the lowest first. -/
def lengthBytes (length : UInt16) : List UInt8 :=
  [length.toUInt8, (length >>> 8).toUInt8]

/-- One step of division by the checksum polynomial, the lowest bit first. -/
def divideBit (remainder : UInt32) : UInt32 :=
  if remainder &&& 1 = 1 then (remainder >>> 1) ^^^ 0xedb88320 else remainder >>> 1

/-- Bring one more byte into the remainder. -/
def divideByte (remainder : UInt32) (byte : UInt8) : UInt32 :=
  (List.range 8).foldl (fun rest _ => divideBit rest) (remainder ^^^ byte.toUInt32)

def chunkChecksum (bytes : List UInt8) : UInt32 :=
  bytes.foldl divideByte 0xffffffff ^^^ 0xffffffff

/-- A chunk: the length of its content, its name, the content, and the checksum. -/
def chunk (name : List Char) (content : List UInt8) : List UInt8 :=
  let named := name.map (fun c => c.toUInt8) ++ content
  wordBytes content.length.toUInt32 ++ named ++ wordBytes (chunkChecksum named)

def sumModulus : Nat := 65521

/-- The checksum of the rows: the sum of all bytes, and the sum of those sums. -/
def rowChecksum (bytes : List UInt8) : UInt32 :=
  let sums := bytes.foldl
    (fun (sums : Nat × Nat) (byte : UInt8) =>
      let low := (sums.1 + byte.toNat) % sumModulus
      (low, (sums.2 + low) % sumModulus)) (1, 0)
  (sums.2 * 65536 + sums.1).toUInt32

/-- The most bytes in a block. -/
def blockLimit : Nat := 65535

/-- Bytes in uncompressed blocks; the last one is marked. -/
def blocks (bytes : List UInt8) : List UInt8 :=
  let length := (min bytes.length blockLimit).toUInt16
  if blockLimit < bytes.length then
    0 :: lengthBytes length ++ lengthBytes (~~~length) ++ bytes.take blockLimit ++
      blocks (bytes.drop blockLimit)
  else 1 :: lengthBytes length ++ lengthBytes (~~~length) ++ bytes
termination_by bytes.length
decreasing_by
  rename_i tooLong
  simp only [List.length_drop, blockLimit] at tooLong ⊢
  omega

def paletteIndex : Colour -> UInt8
  | .sheet => 0
  | .fill => 1
  | .grid => 2
  | .ink => 3

/-- The palette: the red, green and blue part of every colour. -/
def palette : List UInt8 :=
  [0xff, 0xff, 0xff, 0x44, 0x44, 0x44, 0xc8, 0xc8, 0xc8, 0, 0, 0]

/-- A row of pixels, which says first that it is not filtered. -/
def rowBytes (row : List Colour) : List UInt8 :=
  0 :: row.map paletteIndex

def signature : List UInt8 :=
  [0x89, 0x50, 0x4e, 0x47, 0x0d, 0x0a, 0x1a, 0x0a]

/-- The image file of a sheet of pixels: eight bits to a pixel, taken from the
palette, in plain order of rows. -/
def ofRows (width height : Nat) (rows : List (List Colour)) : ByteArray :=
  let pixels := rows.flatMap rowBytes
  let content := signature ++
    chunk ['I', 'H', 'D', 'R'] (wordBytes width.toUInt32 ++ wordBytes height.toUInt32 ++ [8, 3, 0, 0, 0]) ++
    chunk ['P', 'L', 'T', 'E'] palette ++
    chunk ['I', 'D', 'A', 'T'] (0x78 :: 0x01 :: blocks pixels ++ wordBytes (rowChecksum pixels)) ++
    chunk ['I', 'E', 'N', 'D'] []
  ⟨content.toArray⟩

end Png

def Painting.toPng (painting : Painting) : Except Fault ByteArray := do
  return Png.ofRows painting.width.toNat painting.height.toNat (← painting.pixels)

end BattleMap
