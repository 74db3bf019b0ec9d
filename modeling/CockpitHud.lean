import CockpitHud.Propulsion.Burn
import CockpitHud.Layout.Box
import CockpitHud.Layout.Wrap
import CockpitHud.Decimal.Plain
import CockpitHud.Decimal.Reader
import CockpitHud.Direction
import CockpitHud.Text.Pieces
import CockpitHud.Text.Search
import CockpitHud.Ship.IdSet
import CockpitHud.Ship.Build
import CockpitHud.Propulsion.Total
import CockpitHud.Settings.Load
import CockpitHud.Placement
import CockpitHud.Report
import CockpitHud.Program
import CockpitHud.Record.Reader
import CockpitHud.Scenario.Console
import CockpitHud.Main
import CockpitHud.Record.Preferences
import CockpitHud.Proofs.Decimal.Rounding
import CockpitHud.Proofs.Decimal.ReadBack
import CockpitHud.Proofs.Text.Pieces
import CockpitHud.Proofs.Text.Trim
import CockpitHud.Proofs.Settings.Document
import CockpitHud.Proofs.Settings.Line
import CockpitHud.Proofs.Settings.Storable
import CockpitHud.Proofs.Settings.Value
import CockpitHud.Proofs.Settings.RoundTrip
import CockpitHud.Proofs.Layout.Box
import CockpitHud.Proofs.Report.Status
import CockpitHud.Proofs.Ship.Blocks
import CockpitHud.Proofs.Placement
import CockpitHud.Proofs.Hud.Tick
import CockpitHud.Proofs.Ship.Blanked
import CockpitHud.Proofs.Hud.Idle
import CockpitHud.Proofs.Hud.Reload
import CockpitHud.Proofs.Hud.Isolation
import CockpitHud.Proofs.Boot.Progress
import CockpitHud.Proofs.Boot.Step
import CockpitHud.Proofs.Boot.Timeline
import CockpitHud.Proofs.Boot.Discovery
import CockpitHud.Proofs.Boot.Scribbles
import CockpitHud.Proofs.Program
import CockpitHud.Proofs.Session.Basic
import CockpitHud.Proofs.Session.HandOver
import CockpitHud.Proofs.Session.Restart
import CockpitHud.Proofs.Session.StatusLog
import CockpitHud.Proofs.Session.Isolation
import CockpitHud.Proofs.Session.StoredToggles
import CockpitHud.Proofs.Session.Quiescence
import CockpitHud.Proofs.Session.Phases
import CockpitHud.Proofs.Session.BootArguments
import CockpitHud.Proofs.Hud.Coherence
import CockpitHud.Proofs.Session.Coherence
import CockpitHud.Proofs.Boot.Footprint
import CockpitHud.Proofs.Hud.Footprint
import CockpitHud.Proofs.Session.Footprint
import CockpitHud.Proofs.Settings.Grammar
import CockpitHud.Proofs.Scenario.Run
import CockpitHud.Proofs.Scenario.Schedule
import CockpitHud.Proofs.Scenario.Log
import CockpitHud.Proofs.Scenario.Outcome
import CockpitHud.Proofs.Report.Plan
import CockpitHud.Proofs.Report.Box
import CockpitHud.Proofs.Report.Presentation
import CockpitHud.Proofs.Report.Values
import CockpitHud.Proofs.Decimal.Positive
import CockpitHud.Proofs.Propulsion.Sums
import CockpitHud.Proofs.Propulsion.Directions
import CockpitHud.Proofs.Propulsion.Groups
import CockpitHud.Proofs.Propulsion.Estimates
import CockpitHud.Proofs.Propulsion.Maneuvering
import CockpitHud.Proofs.Report.Estimates
import CockpitHud.Proofs.Text.Words
import CockpitHud.Proofs.Layout.Wrap
import CockpitHud.Proofs.Settings.MissingKeys
import CockpitHud.Proofs.Boot.Choice
import CockpitHud.Proofs.Boot.Failure
import CockpitHud.Proofs.Settings.Color
import CockpitHud.Proofs.Boot.Frame
import CockpitHud.Proofs.Layout.Width
import CockpitHud.Proofs.Ship.Ids
