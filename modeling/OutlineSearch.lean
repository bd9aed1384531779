import OutlineSearch.Engine.Session
import OutlineSearch.Proofs.Task.Contract
import OutlineSearch.Proofs.Task.Termination
import OutlineSearch.Proofs.Corpus.Lore
import OutlineSearch.Proofs.Corpus.Reading
import OutlineSearch.Proofs.Search.Finding
import OutlineSearch.Proofs.Search.Faults
import OutlineSearch.Proofs.Search.Steady
import OutlineSearch.Proofs.Corpus.Serving
import OutlineSearch.Proofs.Search.Answers
import OutlineSearch.Proofs.Search.Recovery
import OutlineSearch.Proofs.Search.Edits
import OutlineSearch.Proofs.Number.Rounding
import OutlineSearch.Proofs.Number.Shortest
import OutlineSearch.Proofs.Json.Numbers
import OutlineSearch.Proofs.Json.Strings
import OutlineSearch.Proofs.Json.Writing
import OutlineSearch.Proofs.Json.Sorting
import OutlineSearch.Proofs.Value.Wanted
import OutlineSearch.Proofs.Value.Plain
import OutlineSearch.Proofs.Search.Arguments
import OutlineSearch.Proofs.Search.Alike
import OutlineSearch.Proofs.Search.Transparency
import OutlineSearch.Proofs.Task.Trail
import OutlineSearch.Proofs.Corpus.Calls
import OutlineSearch.Proofs.Corpus.Traffic
import OutlineSearch.Proofs.Corpus.Forgetting
import OutlineSearch.Proofs.Corpus.PageFiles
import OutlineSearch.Proofs.Search.Algebra
import OutlineSearch.Proofs.Search.Arranging
import OutlineSearch.Proofs.Search.Boolean
import OutlineSearch.Proofs.Search.Containment
import OutlineSearch.Proofs.Search.Cursor
import OutlineSearch.Proofs.Search.Lasting
import OutlineSearch.Proofs.Search.Pages
import OutlineSearch.Proofs.Search.Walk
import OutlineSearch.Proofs.Text.Lowering
import OutlineSearch.Proofs.Corpus.PageReads
import OutlineSearch.Proofs.Outline.Places
import OutlineSearch.Proofs.Corpus.Identities
import OutlineSearch.Proofs.Corpus.Passages
import OutlineSearch.Proofs.Corpus.Aboard
import OutlineSearch.Proofs.Corpus.SingleFlight
import OutlineSearch.Proofs.Number.Adding
import OutlineSearch.Proofs.Task.Course
import OutlineSearch.Proofs.Search.Gathering
import OutlineSearch.Proofs.Corpus.Chronicle
import OutlineSearch.Proofs.Engine.Ordinary
import OutlineSearch.Proofs.Search.Staleness
import OutlineSearch.Proofs.Outline.Clamping
import OutlineSearch.Proofs.Outline.Wording
import OutlineSearch.Proofs.Search.RoundTrip
import OutlineSearch.Proofs.Search.Naming
import OutlineSearch.Proofs.Corpus.Forest
import OutlineSearch.Proofs.Search.Listed
import OutlineSearch.Proofs.Search.Surveys
import OutlineSearch.Proofs.Search.Isolation
import OutlineSearch.Proofs.Search.Shortcut
import OutlineSearch.Proofs.Search.Telling
import OutlineSearch.Proofs.Search.Origins
import OutlineSearch.Proofs.Corpus.Tellable
import OutlineSearch.Proofs.Search.Replies
import OutlineSearch.Proofs.Search.Rereading
import OutlineSearch.Proofs.Search.Respelling
import OutlineSearch.Proofs.Number.Range
import OutlineSearch.Proofs.Search.Overflow
import OutlineSearch.Proofs.Text.Blanks
import OutlineSearch.Proofs.Text.Decomposing
import OutlineSearch.Proofs.Search.Relevance
import OutlineSearch.Proofs.Search.Ranking
import OutlineSearch.Proofs.Text.Splitting
import OutlineSearch.Proofs.Text.Settled
import OutlineSearch.Proofs.Number.Comparing
import OutlineSearch.Proofs.Search.Grammar
import OutlineSearch.Proofs.Search.Clauses
import OutlineSearch.Proofs.Search.Stability
import OutlineSearch.Proofs.Search.Normalizing
import OutlineSearch.Proofs.Search.Leaves
import OutlineSearch.Proofs.Number.Exactness
import OutlineSearch.Proofs.Search.WantedIntegers
import OutlineSearch.Proofs.Calendar.Days
import OutlineSearch.Proofs.Calendar.Digits
import OutlineSearch.Proofs.Calendar.Readings
import OutlineSearch.Proofs.Calendar.IsoTexts
import OutlineSearch.Proofs.Calendar.Instants
import OutlineSearch.Proofs.Calendar.JournalDays
import OutlineSearch.Proofs.Search.JournalPages
import OutlineSearch.Proofs.Corpus.WriteLog
import OutlineSearch.Proofs.Search.TaskStates
import OutlineSearch.Proofs.Search.Tagging
import OutlineSearch.Proofs.Search.Backlinks
import OutlineSearch.Proofs.Calendar.Months
import OutlineSearch.Proofs.Outline.Visits
