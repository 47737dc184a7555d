import SerialBridge.Bridge.Basic
import SerialBridge.Bridge.EventThread
import SerialBridge.Bridge.Lifecycle
import SerialBridge.Config.Basic
import SerialBridge.Config.Document
import SerialBridge.Config.File
import SerialBridge.Dispatch.Handler
import SerialBridge.Dispatch.Loop
import SerialBridge.Dispatch.Scripted
import SerialBridge.Echo.Arguments
import SerialBridge.Echo.Program
import SerialBridge.Event.Kind
import SerialBridge.Event.PendingSet
import SerialBridge.Failure
import SerialBridge.File.Reader
import SerialBridge.Hardware.Basic
import SerialBridge.Hardware.Channel
import SerialBridge.Hardware.Loopback
import SerialBridge.Hardware.Scripted
import SerialBridge.Link.Transition
import SerialBridge.Listener.Conduct
import SerialBridge.Listener.Registry
import SerialBridge.Listener.Scripted
import SerialBridge.Mailbox.Basic
import SerialBridge.Mailbox.Handle
import SerialBridge.Mailbox.Tally
import SerialBridge.Mailbox.View
import SerialBridge.Main
import SerialBridge.Message.Snapshot
import SerialBridge.Proofs.Bridge.Aftermath
import SerialBridge.Proofs.Bridge.Amid
import SerialBridge.Proofs.Bridge.Bookkeeping
import SerialBridge.Proofs.Bridge.CallProtocol
import SerialBridge.Proofs.Bridge.Delivery
import SerialBridge.Proofs.Bridge.DriverProtocol
import SerialBridge.Proofs.Bridge.Faults
import SerialBridge.Proofs.Bridge.Isolation
import SerialBridge.Proofs.Bridge.Nudged
import SerialBridge.Proofs.Bridge.Operation
import SerialBridge.Proofs.Bridge.Phases
import SerialBridge.Proofs.Bridge.PrintedText
import SerialBridge.Proofs.Bridge.Session
import SerialBridge.Proofs.Bridge.Strays
import SerialBridge.Proofs.Config.Overlay
import SerialBridge.Proofs.Dispatch.Account
import SerialBridge.Proofs.Dispatch.Cycle
import SerialBridge.Proofs.Dispatch.CycleBound
import SerialBridge.Proofs.Dispatch.Interludes
import SerialBridge.Proofs.Dispatch.Round
import SerialBridge.Proofs.Dispatch.Stop
import SerialBridge.Proofs.Dispatch.Strays
import SerialBridge.Proofs.Echo.CommandLine
import SerialBridge.Proofs.Echo.Conversation
import SerialBridge.Proofs.Event.Gathering
import SerialBridge.Proofs.Hardware.Device
import SerialBridge.Proofs.Hardware.Echo
import SerialBridge.Proofs.Hardware.Refusals
import SerialBridge.Proofs.Listener.OrderedSets
import SerialBridge.Proofs.Listener.Registration
import SerialBridge.Proofs.Listener.Unfolding
import SerialBridge.Proofs.Mailbox.ArrivalOrder
import SerialBridge.Proofs.Mailbox.Coalescing
import SerialBridge.Proofs.Mailbox.Conservation
import SerialBridge.Proofs.Mailbox.DrainHistory
import SerialBridge.Proofs.Mailbox.Guard
import SerialBridge.Proofs.Mailbox.HiddenData
import SerialBridge.Proofs.Mailbox.Invariant
import SerialBridge.Proofs.Mailbox.ReusedView
import SerialBridge.Proofs.Mailbox.Station
import SerialBridge.Proofs.Message.BoundedBytes
import SerialBridge.Proofs.Message.StaleBytes
import SerialBridge.Proofs.Text.Cut
import SerialBridge.Proofs.Text.Decoding
import SerialBridge.Proofs.Toml.Literal
import SerialBridge.Proofs.Toml.Sheet
import SerialBridge.Text.Blank
import SerialBridge.Text.Utf8
import SerialBridge.Toml.Character
import SerialBridge.Toml.Document
import SerialBridge.Toml.Item
import SerialBridge.Toml.Library
import SerialBridge.Toml.Quoted
import SerialBridge.Toml.Record
import SerialBridge.Toml.Scalar
