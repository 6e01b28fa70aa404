import WebCrawl.Config.Reader
import WebCrawl.Crawler.Callers
import WebCrawl.Frontier.Handle
import WebCrawl.Lifecycle.Race
import WebCrawl.Simulation.Trial
import WebCrawl.Sink.Sharing
import WebCrawl.Statistics.Snapshot
import WebCrawl.Proofs.Frontier.Lawful
import WebCrawl.Proofs.Frontier.Listed
import WebCrawl.Proofs.Frontier.Memory
import WebCrawl.Proofs.Statistics.Counting
import WebCrawl.Proofs.Crawl.Work
import WebCrawl.Proofs.Crawl.Events
import WebCrawl.Proofs.Crawl.Outcome
import WebCrawl.Proofs.Site.Conduct
import WebCrawl.Proofs.Site.Ledger
import WebCrawl.Proofs.Site.Keeping
import WebCrawl.Proofs.Sequential.Serve
import WebCrawl.Proofs.Sequential.Closure
import WebCrawl.Proofs.Sequential.Trace
import WebCrawl.Proofs.Sequential.Accounting
import WebCrawl.Proofs.Pool.Step
import WebCrawl.Proofs.Pool.Parking
import WebCrawl.Proofs.Pool.Wakeup
import WebCrawl.Proofs.Pool.Debt
import WebCrawl.Proofs.Pool.Agreement
import WebCrawl.Proofs.Pool.Flow
import WebCrawl.Proofs.Pool.Conservation
import WebCrawl.Proofs.Pool.SingleFetch
import WebCrawl.Proofs.Pool.Journal
import WebCrawl.Proofs.Pool.Locks
import WebCrawl.Proofs.Pool.StepsLeft
import WebCrawl.Proofs.Pool.Cancellation
import WebCrawl.Proofs.Pool.Joining
import WebCrawl.Proofs.Pool.Ending
import WebCrawl.Proofs.Crawler.Atomicity
import WebCrawl.Proofs.Crawler.Release
import WebCrawl.Proofs.Pool.Desertion
import WebCrawl.Proofs.Frontier.Bloom
import WebCrawl.Proofs.Crawler.Disguise
import WebCrawl.Proofs.Frontier.Stack
import WebCrawl.Proofs.Crawl.Calm
import WebCrawl.Proofs.Sequential.Bound
import WebCrawl.Proofs.Frontier.Saturation
import WebCrawl.Proofs.Crawl.Turnover
import WebCrawl.Proofs.Sequential.Saturation
import WebCrawl.Proofs.Site.Levels
import WebCrawl.Proofs.Sequential.Breadth
import WebCrawl.Proofs.Crawl.Resources
import WebCrawl.Proofs.Crawl.Told
import WebCrawl.Proofs.Sequential.Dispatch
import WebCrawl.Proofs.Crawler.Unwinding
import WebCrawl.Proofs.Sequential.Fairness
import WebCrawl.Proofs.Pool.Handover
import WebCrawl.Proofs.Json.Spelling
import WebCrawl.Proofs.Json.Lexemes
import WebCrawl.Proofs.Json.Reading
import WebCrawl.Proofs.Json.Skipping
import WebCrawl.Proofs.Json.Printing
import WebCrawl.Proofs.Config.Meaning
import WebCrawl.Proofs.Config.Rearrangement
import WebCrawl.Proofs.Config.RoundTrip
import WebCrawl.Proofs.Assembly.Building
import WebCrawl.Proofs.Assembly.Interval
import WebCrawl.Proofs.Dict
import WebCrawl.Proofs.Json.Compact
import WebCrawl.Proofs.Sink.Recovery
import WebCrawl.Proofs.Frontier.Turns
import WebCrawl.Proofs.Lifecycle.Race
import WebCrawl.Proofs.Sink.Sharing
import WebCrawl.Proofs.Statistics.Snapshot
import WebCrawl.Proofs.Pool.Reckoning
import WebCrawl.Proofs.Pool.Watching
