import WebCrawl.Component
import WebCrawl.Sink.Block
import WebCrawl.Sink.Disk

/-!
# Simulated worlds

The world in which a crawler is tried out: what its components did, how often they failed, the
sinks in memory, the disk with the files that are open on it, and the console.
-/

namespace WebCrawl.Simulation

structure NamedSink where
  name : String
  sink : MemorySink
  deriving Inhabited

structure World where
  /-- What happened, newest first. -/
  events : List String
  /-- How often each target failed at each downloader. -/
  failures : List ((Nat × String) × Nat)
  /-- The downloaders made so far. -/
  downloaders : Nat
  writers : List NamedSink
  openFiles : List OpenFile
  disk : Disk
  console : List UInt8
  deriving Inhabited

namespace World

def empty : World := ⟨[], [], 0, [], [], .empty, []⟩

def emit (w : World) (event : String) : World := { w with events := event :: w.events }

/-- The events so far in order, and the world without them. -/
def takeEvents (w : World) : List String × World := (w.events.reverse, { w with events := [] })

def failureCount (w : World) (downloader : Nat) (target : String) : Nat :=
  ((w.failures.find? fun f => f.1 == (downloader, target)).map Prod.snd).getD 0

def countFailure (w : World) (downloader : Nat) (target : String) : World :=
  let n := w.failureCount downloader target + 1
  let others := w.failures.filter fun f => f.1 != (downloader, target)
  { w with failures := ((downloader, target), n) :: others }

def newDownloader (w : World) : Nat × World :=
  (w.downloaders, { w with downloaders := w.downloaders + 1 })

def newWriter (w : World) (name : String) (sink : MemorySink) : Nat × World :=
  (w.writers.length, { w with writers := w.writers ++ [⟨name, sink⟩] })

def openFile (w : World) (path : String) : Except IoError (Nat × World) :=
  (w.disk.create path).map fun (file, disk) =>
    (w.openFiles.length, { w with disk, openFiles := w.openFiles ++ [file] })

def settleFile (disk : Disk) : List OpenFile → List OpenFile × Disk
  | [] => ([], disk)
  | file :: rest =>
    let settled := FileSink.settle ⟨disk, file⟩
    let (files, disk) := settleFile settled.disk rest
    (settled.file :: files, disk)

/-- Writes out what open files still hold, in the order in which they were opened. -/
def settle (w : World) : World :=
  let (openFiles, disk) := settleFile w.disk w.openFiles
  { w with openFiles, disk }

end World

/-- The console takes everything. -/
structure Console where
  content : List UInt8

instance : ByteSink Console where
  write c bs := (.accepted bs.length, ⟨c.content ++ bs⟩)
  flush c := (.ok (), c)
  patience _ _ := 0
  patience_lt h := by cases h

end WebCrawl.Simulation
