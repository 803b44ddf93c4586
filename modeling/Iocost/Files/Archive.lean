import Iocost.Files.Change

/-!
Archives of files. An archive is a sequence of blocks of 512 bytes: each entry has a block that
describes it, and the blocks of its content behind it, the last of them filled up. A block of zeros
ends the archive.
-/

namespace Iocost.Archive

/-- The bytes in a block. -/
def blockSize : Nat := 512

/-- What an entry puts into a tree. -/
inductive Kind where
  | file
  | directory
  | link (target : List UInt8)
deriving DecidableEq

/-- The description of an entry. -/
structure Header where
  path : List UInt8
  /-- Entries of other kinds are left out. -/
  kind? : Option Kind
  /-- The length of the content. -/
  size : Nat
deriving DecidableEq

/-- The bytes of a field, up to the first zero. -/
def field (block : List UInt8) (start length : Nat) : List UInt8 :=
  ((block.drop start).take length).takeWhile (· != 0)

/-- The number that octal digits write. -/
def octal (bytes : List UInt8) : Nat :=
  (bytes.filter fun b => 48 ≤ b && b < 56).foldl (fun n b => 8 * n + (b.toNat - 48)) 0

/-- The kind with a code. -/
def kindOf? (code : Option UInt8) (target : List UInt8) : Option Kind :=
  match code with
  | some 0 | some 48 => some .file
  | some 50 => some (.link target)
  | some 53 => some .directory
  | _ => none

/-- The description in a block, `none` for a block of zeros. A long path is written in two
fields. -/
def Header.ofBlock? (block : List UInt8) : Option Header :=
  if block.all (· == 0) then none
  else
    let above := if field block 257 8 = Text.encode "ustar" then field block 345 155 else []
    let name := field block 0 100
    some
      { path := if above.isEmpty then name else FilePath.join above name
        kind? := kindOf? block[156]? (field block 157 100)
        size := octal (field block 124 12) }

/-- The length of the content with what fills up its last block. -/
def Header.paddedSize (h : Header) : Nat := (h.size + (blockSize - 1)) / blockSize * blockSize

/-- Puts an entry into a tree of files; a new file gets a number. An entry that has no place there
is left out. -/
def Header.extract (h : Header) (content : List UInt8) (inode : UInt64) (files : FileTree) :
    FileTree :=
  let put :=
    match h.kind? with
    | some .file => files.writeFile h.path inode (content.take h.size)
    | some .directory => files.putDirectory h.path
    | some (.link target) => files.putLink h.path target
    | none => .ok files
  match put with
  | .ok files => files
  | .error _ => files

end Iocost.Archive
