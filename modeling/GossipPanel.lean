import GossipPanel.Display.Bubble
import GossipPanel.Display.Drawing
import GossipPanel.Display.Event
import GossipPanel.Display.InputBox
import GossipPanel.Display.ListPane
import GossipPanel.Display.MessageList
import GossipPanel.Display.Routing
import GossipPanel.Display.State
import GossipPanel.Display.TabBar
import GossipPanel.Display.TitleBar
import GossipPanel.Json.Basic
import GossipPanel.Json.Number
import GossipPanel.Json.Printer
import GossipPanel.Json.Reader
import GossipPanel.Main
import GossipPanel.Node.Client
import GossipPanel.Node.Failure
import GossipPanel.Node.FileName
import GossipPanel.Node.Form
import GossipPanel.Node.Record
import GossipPanel.Node.Request
import GossipPanel.Node.Wire
import GossipPanel.Panel.Action
import GossipPanel.Panel.Conversations
import GossipPanel.Panel.Feed
import GossipPanel.Panel.InputLine
import GossipPanel.Panel.Polling
import GossipPanel.Panel.Search
import GossipPanel.Panel.State
import GossipPanel.Panel.Update
import GossipPanel.Proofs.ActiveView
import GossipPanel.Proofs.Commands
import GossipPanel.Proofs.ConversationRefresh
import GossipPanel.Proofs.Failures
import GossipPanel.Proofs.Files.Downloads
import GossipPanel.Proofs.Files.Paths
import GossipPanel.Proofs.Independence
import GossipPanel.Proofs.InputLine.Grammar
import GossipPanel.Proofs.InputLine.Words
import GossipPanel.Proofs.Json.Literals
import GossipPanel.Proofs.Json.Values
import GossipPanel.Proofs.MessageList.Cache
import GossipPanel.Proofs.MessageList.Layout
import GossipPanel.Proofs.MessageList.Window
import GossipPanel.Proofs.MessageSending
import GossipPanel.Proofs.Moves
import GossipPanel.Proofs.PeerToggles
import GossipPanel.Proofs.PollingChain
import GossipPanel.Proofs.Reaction
import GossipPanel.Proofs.Redrawing
import GossipPanel.Proofs.RefreshRequests
import GossipPanel.Proofs.Repinning
import GossipPanel.Proofs.RouteOrigins
import GossipPanel.Proofs.Run
import GossipPanel.Proofs.Search.Chunking
import GossipPanel.Proofs.Search.Entries
import GossipPanel.Proofs.Search.Lifecycle
import GossipPanel.Proofs.Search.Observation
import GossipPanel.Proofs.SearchReaction
import GossipPanel.Proofs.SearchSession
import GossipPanel.Proofs.SnapshotHistory
import GossipPanel.Proofs.StaleCompletions
import GossipPanel.Proofs.Streaming.Arrival
import GossipPanel.Proofs.Streaming.Desk
import GossipPanel.Proofs.TabContents
import GossipPanel.Proofs.TabStore
import GossipPanel.Proofs.TickRefreshes
import GossipPanel.Proofs.Tickets
import GossipPanel.Proofs.Utf8.Characters
import GossipPanel.Proofs.Utf8.Lossy
import GossipPanel.Proofs.Utf8.Stream
import GossipPanel.Proofs.ViewCycle
import GossipPanel.Proofs.Wire.Decoding
import GossipPanel.Proofs.Wire.Fields
import GossipPanel.Proofs.Wire.RoundTrip
import GossipPanel.Screen.Frame
import GossipPanel.Screen.Line
import GossipPanel.Screen.Paragraph
import GossipPanel.Screen.Picture
import GossipPanel.Screen.Style
import GossipPanel.Screen.Terminal
import GossipPanel.Screen.Widgets
import GossipPanel.Screen.Wrap
import GossipPanel.Settings.Arguments
import GossipPanel.Settings.Basic
import GossipPanel.Settings.File
import GossipPanel.Text.Alphanumeric
import GossipPanel.Text.Blank
import GossipPanel.Text.Bytes
import GossipPanel.Text.Cluster
import GossipPanel.Text.Columns
import GossipPanel.Text.Fill
import GossipPanel.Text.Lines
import GossipPanel.Text.Numeral
import GossipPanel.Text.Property.Alphanumeric
import GossipPanel.Text.Property.Break
import GossipPanel.Text.Property.Conjunct
import GossipPanel.Text.Property.Emoji
import GossipPanel.Text.Property.Extend
import GossipPanel.Text.Property.Joining
import GossipPanel.Text.Property.Unprintable
import GossipPanel.Text.Property.Wide
import GossipPanel.Text.Quoted
import GossipPanel.Text.Ranges
import GossipPanel.Text.Utf8
import GossipPanel.Text.Width
import GossipPanel.Toml.Basic
import GossipPanel.Toml.Reader
import GossipPanel.Toml.Scalar
import GossipPanel.Work.Answers
import GossipPanel.Work.Files
import GossipPanel.Work.Job
import GossipPanel.Work.Station
import GossipPanel.Proofs.CanonicalRows
import GossipPanel.Proofs.ManualReconnect
import GossipPanel.Proofs.InputBox.LineEditor
import GossipPanel.Proofs.InputBox.Typing
import GossipPanel.Proofs.MessageList.ReadingPosition
import GossipPanel.Proofs.InputBox.Cursor
import GossipPanel.Proofs.MessageList.PredictedRows
import GossipPanel.Proofs.InputBox.Keystrokes
import GossipPanel.Proofs.PaneActions
import GossipPanel.Proofs.Utf8.HeldBack
import GossipPanel.Proofs.SearchFocus
import GossipPanel.Proofs.MessageList.NearViewport
import GossipPanel.Proofs.InputBox.Scrolling
import GossipPanel.Proofs.ListCursor
