import WebCrawl.Dict
import WebCrawl.Sink.Basic
import WebCrawl.Text.Utf8

/-!
# Files

A disk is one flat directory. Opening a file for writing empties it; every opening has a buffer and
an offset of its own, so a file that is opened again while an older opening still holds bytes gets
them at the old place later.
-/

namespace WebCrawl

structure Disk where
  files : Dict (List UInt8)
  deriving Inhabited

namespace Disk

def empty : Disk := ⟨.empty⟩

def read? (d : Disk) (name : String) : Option (List UInt8) := d.files.get? name

def put (d : Disk) (name : String) (content : List UInt8) : Disk :=
  ⟨d.files.insert name content⟩

def longestName : Nat := 255

def longestPath : Nat := 4095

/-- Walks the directories of a path; there are none besides the current one. -/
def walk (d : Disk) : List String → Except IoError String
  | [] => .error .isDirectory
  | [name] =>
    if name = "" ∨ name = "." ∨ name = ".." then .error .isDirectory
    else if longestName < name.utf8ByteSize then .error .nameTooLong
    else .ok name
  | part :: rest =>
    if part = "" ∨ part = "." then walk d rest
    else if longestName < part.utf8ByteSize then .error .nameTooLong
    else
      match d.read? part with
      | some _ => .error .notDirectory
      | none => .error (if rest.all (· = "") then .isDirectory else .notFound)

def resolve (d : Disk) (path : String) : Except IoError String :=
  if path.toList.contains '\x00' then .error .nulInName
  else if path = "" then .error .notFound
  else if longestPath < path.utf8ByteSize then .error .nameTooLong
  else walk d (path.splitOn "/")

/-- Puts bytes into a file from an offset on; a gap before them is filled with zeros. -/
def splice (content : List UInt8) (offset : Nat) (bs : List UInt8) : List UInt8 :=
  let padded := content ++ List.replicate (offset - content.length) 0
  padded.take offset ++ bs ++ padded.drop (offset + bs.length)

def writeAt (d : Disk) (name : String) (offset : Nat) (bs : List UInt8) : Disk :=
  d.put name (splice ((d.read? name).getD []) offset bs)

end Disk

/-- An opening of a file: the place of the next byte, and bytes not yet written. -/
structure OpenFile where
  name : String
  offset : Nat
  buffer : List UInt8
  deriving Repr, DecidableEq, Inhabited

/-- Opens a file for writing and empties it. -/
def Disk.create (d : Disk) (path : String) : Except IoError (OpenFile × Disk) :=
  match d.resolve path with
  | .ok name => .ok (⟨name, 0, []⟩, d.put name [])
  | .error cause => .error cause

structure FileSink where
  disk : Disk
  file : OpenFile

namespace FileSink

def bufferSize : Nat := 8192

def writeThrough (s : FileSink) (bs : List UInt8) : FileSink :=
  if bs.isEmpty then s
  else
    ⟨s.disk.writeAt s.file.name s.file.offset bs,
      { s.file with offset := s.file.offset + bs.length }⟩

def settle (s : FileSink) : FileSink :=
  let s' := s.writeThrough s.file.buffer
  { s' with file := { s'.file with buffer := [] } }

/-- Buffers bytes as long as they fit; what is larger than the buffer passes it by. -/
def take (s : FileSink) (bs : List UInt8) : FileSink :=
  let spare := bufferSize - s.file.buffer.length
  let s := if spare < bs.length then s.settle else s
  if bufferSize ≤ bs.length then s.writeThrough bs
  else { s with file := { s.file with buffer := s.file.buffer ++ bs } }

instance : ByteSink FileSink where
  write s bs := (.accepted bs.length, s.take bs)
  flush s := (.ok (), s.settle)
  patience _ _ := 0
  patience_lt h := by cases h

end FileSink

end WebCrawl
