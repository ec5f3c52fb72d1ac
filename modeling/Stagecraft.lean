import Stagecraft.Number.Digits
import Stagecraft.Number.Scalar
import Stagecraft.Number.Single
import Stagecraft.Number.Decimal
import Stagecraft.Number.Word
import Stagecraft.Json.Basic
import Stagecraft.Json.Numeral
import Stagecraft.Json.Token
import Stagecraft.Json.Reader
import Stagecraft.Json.Record
import Stagecraft.Variable.Cycle
import Stagecraft.Variable.Name
import Stagecraft.Variable.Scope
import Stagecraft.Variable.World
import Stagecraft.Variable.Flags
import Stagecraft.Variable.FlagsJson
import Stagecraft.Variable.Layers
import Stagecraft.Animation.Basic
import Stagecraft.Animation.Clock
import Stagecraft.Animation.Act
import Stagecraft.Animation.Validation
import Stagecraft.Animation.Json
import Stagecraft.Presentation.Basic
import Stagecraft.Presentation.Json
import Stagecraft.Presentation.Sanitized
import Stagecraft.Presentation.Channels
import Stagecraft.Id
import Stagecraft.Log
import Stagecraft.Presentation.Text
import Stagecraft.Settings
import Stagecraft.Observer
import Stagecraft.Channel.Track
import Stagecraft.Channel.Sweep
import Stagecraft.Channel.Evaluation
import Stagecraft.Output
import Stagecraft.Output.Json
import Stagecraft.Presenter.Stage
import Stagecraft.Presenter.Voice
import Stagecraft.Presenter.Sounds
import Stagecraft.Presenter.Unanswered
import Stagecraft.Presenter.Basic
import Stagecraft.Presenter.Tick
import Stagecraft.Presenter.Call
import Stagecraft.Registry.Entry
import Stagecraft.Registry.Basic
import Stagecraft.Scenario
import Stagecraft.Fixture.BeaconDrive
import Stagecraft.Fixture.BeaconVehicle
import Stagecraft.Fixture.MalformedChannels
import Stagecraft.Fixture.Catalog
import Stagecraft.Proofs.Clock.Advance
import Stagecraft.Proofs.Channel.Sweep
import Stagecraft.Proofs.Presenter.Run
import Stagecraft.Proofs.Presenter.Unanswered
import Stagecraft.Proofs.Presenter.Frame
import Stagecraft.Proofs.Presenter.Mixer
import Stagecraft.Proofs.Presenter.Restart
import Stagecraft.Proofs.Channel.Edge
import Stagecraft.Proofs.Presenter.Part
import Stagecraft.Proofs.Presenter.Edge
import Stagecraft.Proofs.Presenter.Silence
import Stagecraft.Proofs.Channel.Turn
import Stagecraft.Proofs.Presenter.Repeat
import Stagecraft.Proofs.Number.Quotient
import Stagecraft.Proofs.Clock.Settle
import Stagecraft.Proofs.Channel.Settle
import Stagecraft.Proofs.Presenter.Tag
import Stagecraft.Registry.Request
import Stagecraft.Proofs.Registry.Solo
import Stagecraft.Proofs.Registry.Isolation
import Stagecraft.Proofs.Channel.Scan
import Stagecraft.Proofs.Channel.Gates
import Stagecraft.Proofs.Presenter.NoEdge
import Stagecraft.Proofs.Registry.Roster
import Stagecraft.Proofs.Presenter.InStep
import Stagecraft.Proofs.Presenter.Thinned
import Stagecraft.Proofs.Presenter.Focus
import Stagecraft.Proofs.Presenter.Apart
import Stagecraft.Proofs.Presenter.Playback
import Stagecraft.Proofs.Presenter.Session
import Stagecraft.Proofs.Presenter.Leftover
import Stagecraft.Variable.Change
import Stagecraft.Proofs.History
import Stagecraft.Proofs.Variable.Change
import Stagecraft.Proofs.Variable.Reload
import Stagecraft.Proofs.Registry.Deed
import Stagecraft.Proofs.Registry.Constants
import Stagecraft.Proofs.Channel.Switch
import Stagecraft.Proofs.Variable.OneShot
import Stagecraft.Proofs.Registry.Rise
import Stagecraft.Proofs.Registry.Click
import Stagecraft.Proofs.Number.Overflow
import Stagecraft.Proofs.Presenter.Loudness
import Stagecraft.Proofs.Clock.Invariant
import Stagecraft.Proofs.Clock.Counters
import Stagecraft.Proofs.Clock.Debounce
import Stagecraft.Proofs.Clock.Level
import Stagecraft.Proofs.Clock.Monotone
import Stagecraft.Proofs.Channel.Stack
import Stagecraft.Proofs.Presentation.Sanitized
import Stagecraft.Proofs.Number.Digits
import Stagecraft.Proofs.Variable.Grammar
import Stagecraft.Proofs.Variable.Index
import Stagecraft.Proofs.Variable.Cycle
import Stagecraft.Proofs.Presenter.Asked
import Stagecraft.Proofs.Presenter.CycleNames
import Stagecraft.Proofs.Number.Finite
import Stagecraft.Proofs.Json.Bounded
import Stagecraft.Proofs.Json.Record
import Stagecraft.Proofs.Presentation.Saved
import Stagecraft.Proofs.Animation.Shaped
import Stagecraft.Proofs.Channel.Clamped
import Stagecraft.Proofs.Channel.Brightness
import Stagecraft.Proofs.Presenter.Cadence
import Stagecraft.Proofs.Presenter.Lights
import Stagecraft.Proofs.Variable.Lapse
import Stagecraft.Proofs.Variable.LastList
import Stagecraft.Proofs.Registry.Known
import Stagecraft.Proofs.Channel.Reads
import Stagecraft.Proofs.Presenter.Report
import Stagecraft.Proofs.Variable.Wave
import Stagecraft.Proofs.Clock.Rate
