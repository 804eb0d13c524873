import TextCursor.Attempt
import TextCursor.Configuration.Session
import TextCursor.Proofs.Configuration.Load
import TextCursor.Proofs.Extraction.Composition
import TextCursor.Proofs.Extraction.OnText
import TextCursor.Proofs.Extraction.RoundTrip
import TextCursor.Proofs.Extraction.Template
import TextCursor.Proofs.Segmentation.LookBack
import TextCursor.Proofs.Quoted
import TextCursor.Proofs.Session.Logging
import TextCursor.Proofs.Settings.Calls
import TextCursor.Proofs.Unicode.BreakTables
import TextCursor.Proofs.Window.Describe
import TextCursor.Proofs.Session.Consulting
import TextCursor.Proofs.Session.Memo
import TextCursor.Proofs.Session.Placement
import TextCursor.Session.Basic
import TextCursor.Proofs.Segmentation.Partition
import TextCursor.Proofs.Session.Frame
import TextCursor.Proofs.Session.Delimiter
import TextCursor.Proofs.Session.Iterator
import TextCursor.Proofs.Session.Numbers
import TextCursor.Proofs.Session.CountedChops
import TextCursor.Proofs.Session.Trimming
import TextCursor.Proofs.Session.Search
import TextCursor.Proofs.Session.Openings
import TextCursor.Proofs.Session.BlankRuns
import TextCursor.Proofs.Session.IntegerList
import TextCursor.Proofs.Session.Splitting
import TextCursor.Proofs.Session.Floats
