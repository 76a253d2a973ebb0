/-!
# The 64-bit digest XXH64

The digest of a byte string under seed zero: four lanes take the input in
blocks of 32 bytes, are merged, and the remaining bytes are mixed in by eights,
by a four and one by one, before a final avalanche. All arithmetic wraps.
-/

namespace ScriptClass.Hash.XXH64

def prime1 : UInt64 := 0x9E3779B185EBCA87
def prime2 : UInt64 := 0xC2B2AE3D27D4EB4F
def prime3 : UInt64 := 0x165667B19E3779F9
def prime4 : UInt64 := 0x85EBCA77C2B2AE63
def prime5 : UInt64 := 0x27D4EB2F165667C5

def rotateLeft (x : UInt64) (n : UInt64) : UInt64 := (x <<< n) ||| (x >>> (64 - n))

/-- The bytes as a little-endian number. -/
def littleEndian (bytes : List UInt8) : UInt64 :=
  bytes.foldr (fun b n => (n <<< 8) ||| b.toUInt64) 0

/-- One step of a lane. -/
def stir (lane input : UInt64) : UInt64 :=
  rotateLeft (lane + input * prime2) 31 * prime1

/-- Merges one lane into the digest. -/
def merge (digest lane : UInt64) : UInt64 :=
  (digest ^^^ stir 0 lane) * prime1 + prime4

/-- The four lanes. -/
structure Lanes where
  a : UInt64
  b : UInt64
  c : UInt64
  d : UInt64

def Lanes.start : Lanes := ⟨prime1 + prime2, prime2, 0, 0 - prime1⟩

/-- Feeds one block of 32 bytes. -/
def Lanes.feed (l : Lanes) (block : List UInt8) : Lanes :=
  ⟨stir l.a (littleEndian (block.take 8)),
   stir l.b (littleEndian ((block.drop 8).take 8)),
   stir l.c (littleEndian ((block.drop 16).take 8)),
   stir l.d (littleEndian ((block.drop 24).take 8))⟩

def Lanes.close (l : Lanes) : UInt64 :=
  let sum := rotateLeft l.a 1 + rotateLeft l.b 7 + rotateLeft l.c 12 + rotateLeft l.d 18
  merge (merge (merge (merge sum l.a) l.b) l.c) l.d

/-- Feeds every whole block; what is left is shorter than a block. -/
def feedBlocks (l : Lanes) (bytes : List UInt8) : Lanes × List UInt8 :=
  if 32 ≤ bytes.length then feedBlocks (l.feed (bytes.take 32)) (bytes.drop 32)
  else (l, bytes)
termination_by bytes.length
decreasing_by simp only [List.length_drop]; omega

/-- Mixes in the bytes after the last block. -/
def mixTail (digest : UInt64) (bytes : List UInt8) : UInt64 :=
  if 8 ≤ bytes.length then
    mixTail (rotateLeft (digest ^^^ stir 0 (littleEndian (bytes.take 8))) 27 * prime1 + prime4)
      (bytes.drop 8)
  else if 4 ≤ bytes.length then
    mixTail (rotateLeft (digest ^^^ (littleEndian (bytes.take 4) * prime1)) 23 * prime2 + prime3)
      (bytes.drop 4)
  else
    bytes.foldl (fun h b => rotateLeft (h ^^^ (b.toUInt64 * prime5)) 11 * prime1) digest
termination_by bytes.length
decreasing_by all_goals (simp only [List.length_drop]; omega)

def avalanche (h : UInt64) : UInt64 :=
  let h := (h ^^^ (h >>> 33)) * prime2
  let h := (h ^^^ (h >>> 29)) * prime3
  h ^^^ (h >>> 32)

/-- The digest of a byte string. -/
def digest (bytes : List UInt8) : UInt64 :=
  let length := UInt64.ofNat bytes.length
  if bytes.length < 32 then avalanche (mixTail (prime5 + length) bytes)
  else
    let (lanes, rest) := feedBlocks .start bytes
    avalanche (mixTail (lanes.close + length) rest)

/-- The digest of a text's UTF-8 bytes. -/
def ofString (s : String) : UInt64 := digest s.toUTF8.toList

end ScriptClass.Hash.XXH64
