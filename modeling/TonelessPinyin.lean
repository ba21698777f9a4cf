import TonelessPinyin.Journal.Logger
import TonelessPinyin.Journal.Report
import TonelessPinyin.Main
import TonelessPinyin.Pattern.Ways
import TonelessPinyin.Proofs.Pattern.Piece
import TonelessPinyin.Syllable.Readings
import TonelessPinyin.Proofs.Pattern.PieceReading
import TonelessPinyin.Proofs.Vowel.Forms
import TonelessPinyin.Proofs.Query.Grapheme
import TonelessPinyin.Proofs.Query.Substitution
import TonelessPinyin.Proofs.Tone.Letters
import TonelessPinyin.Proofs.Tone.Search
import TonelessPinyin.Proofs.Syllable.Table
import TonelessPinyin.Proofs.Query.Head
import TonelessPinyin.Proofs.Query.Pieces
import TonelessPinyin.Proofs.Query.Soundness
import TonelessPinyin.Proofs.Query.Language
import TonelessPinyin.Proofs.Query.Plain
import TonelessPinyin.Proofs.Query.Rendering
import TonelessPinyin.Proofs.Syllable.Readings
import TonelessPinyin.Proofs.Query.Totality
import TonelessPinyin.Proofs.Pattern.Successive
import TonelessPinyin.Proofs.Session.Steps
import TonelessPinyin.Proofs.Session.Runs
import TonelessPinyin.Proofs.Session.Refresh
import TonelessPinyin.Proofs.Session.Enumeration
import TonelessPinyin.Proofs.Searcher.Bounds
import TonelessPinyin.Proofs.Session.Invariant
import TonelessPinyin.Proofs.Session.Congruence
import TonelessPinyin.Proofs.Session.Nested
import TonelessPinyin.Proofs.Session.Trace
import TonelessPinyin.Proofs.Query.Validity
import TonelessPinyin.Proofs.Session.Validity
import TonelessPinyin.Proofs.Pattern.Likeness
import TonelessPinyin.Proofs.Query.Correspondence
import TonelessPinyin.Proofs.Query.Caseless
import TonelessPinyin.Proofs.Query.Umlaut
import TonelessPinyin.Proofs.Query.Capitals
import TonelessPinyin.Proofs.Searcher.Counted
import TonelessPinyin.Proofs.Searcher.Order
import TonelessPinyin.Proofs.Session.Repetition
import TonelessPinyin.Proofs.CommandLine.Listing
import TonelessPinyin.Proofs.Session.FailedRepetition
import TonelessPinyin.Proofs.Searcher.Composition
import TonelessPinyin.Proofs.Searcher.Window
import TonelessPinyin.Proofs.Syllable.PlainKey
import TonelessPinyin.Proofs.Syllable.Tabulation
import TonelessPinyin.Proofs.Query.EscapedHead
import TonelessPinyin.Proofs.Query.Spacing
import TonelessPinyin.Proofs.Query.Collisions
import TonelessPinyin.Proofs.Syllable.Mapping
import TonelessPinyin.Proofs.Query.Tokens
import TonelessPinyin.Proofs.Tone.LeftmostLongest
import TonelessPinyin.Proofs.Tone.Lookup
