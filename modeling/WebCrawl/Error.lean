import WebCrawl.Decimal.Layout
import WebCrawl.Json.Failure
import WebCrawl.Lifecycle
import WebCrawl.Url.Host

/-!
# Errors

Errors a caller sees are causes; their wording is in one function each. A failed download is no
such error: whatever its cause, the request is tried again.
-/

namespace WebCrawl

inductive IoError where
  | notFound
  | notDirectory
  | isDirectory
  | nameTooLong
  | nulInName
  /-- A sink took no bytes although some were left. -/
  | nothingWritten
  | described (text : String)
  deriving Repr, DecidableEq

def IoError.message : IoError → String
  | .notFound => "No such file or directory (os error 2)"
  | .notDirectory => "Not a directory (os error 20)"
  | .isDirectory => "Is a directory (os error 21)"
  | .nameTooLong => "File name too long (os error 36)"
  | .nulInName => "file name contained an unexpected NUL byte"
  | .nothingWritten => "failed to write whole buffer"
  | .described text => text

inductive ConfigIssue where
  | noFetchWorkers
  | noProcessWorkers
  | zeroWait
  | zeroWaitMillis
  | zeroInsertions
  | rateOutside (rate : Float)
  | filterZeroInsertions
  | filterRateOutside (rate : Float)
  | filterUnsized (cause : String)
  | noDownloader
  | downloaderTaken (name : String)
  | downloaderCount (count : Nat)
  | downloaderMissing
  | described (text : String)
  deriving Repr

def ConfigIssue.message : ConfigIssue → String
  | .noFetchWorkers => "fetch_workers must be at least 1"
  | .noProcessWorkers => "process_workers must be at least 1"
  | .zeroWait => "wait interval must be greater than zero"
  | .zeroWaitMillis => "wait_millis must be greater than zero"
  | .zeroInsertions => "expected_insertions must be greater than zero"
  | .rateOutside rate => "false_positive_rate must be in (0, 1), got " ++ Decimal.plain.render rate
  | .filterZeroInsertions => "bloom filter expected_insertions must be greater than 0"
  | .filterRateOutside rate =>
    "bloom filter false_positive_rate must be in (0, 1), got " ++ Decimal.plain.render rate
  | .filterUnsized cause => "failed to size bloom filter: " ++ cause
  | .noDownloader => "concurrent crawler has no downloader"
  | .downloaderTaken name => s!"concurrent crawler already uses downloader '{name}'"
  | .downloaderCount count => s!"concurrent crawler needs exactly one downloader, got {count}"
  | .downloaderMissing => "crawler needs at least one downloader"
  | .described text => text

inductive CrawlError where
  | illegalState (e : PhaseError)
  | configuration (issue : ConfigIssue)
  | workerSpawn (cause : IoError)
  | io (cause : IoError)
  | json (cause : Json.Refusal)
  | url (cause : UrlError)
  deriving Repr

namespace CrawlError

def source? : CrawlError → Option String
  | .illegalState _ => none
  | .configuration _ => none
  | .workerSpawn cause => some cause.message
  | .io cause => some cause.message
  | .json cause => some cause.message
  | .url cause => some cause.message

def message : CrawlError → String
  | .illegalState e => e.message
  | .configuration issue => "configuration error: " ++ issue.message
  | .workerSpawn cause => "failed to spawn worker thread: " ++ cause.message
  | .io cause => "I/O error: " ++ cause.message
  | .json cause => "JSON error: " ++ cause.message
  | .url cause => "URL parse error: " ++ cause.message

def isIllegalState : CrawlError → Bool
  | .illegalState _ => true
  | _ => false

end CrawlError

inductive DownloadError where
  | io (cause : IoError)
  /-- The remote side answered with a status that is not handed on. -/
  | status (code : UInt16) (target : String)
  | described (text : String)
  deriving Repr, DecidableEq

namespace DownloadError

def message : DownloadError → String
  | .io cause => "I/O error: " ++ cause.message
  | .status code target => s!"unexpected status {code.toNat} for {target}"
  | .described text => text

def source? : DownloadError → Option String
  | .io cause => some cause.message
  | _ => none

end DownloadError

/-- Why a resource could not be released: a chain of causes, outermost first. -/
structure CloseError where
  causes : List String
  deriving Repr, DecidableEq

def CloseError.message (e : CloseError) : String := ": ".intercalate e.causes

end WebCrawl
