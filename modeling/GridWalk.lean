import GridWalk.Json.Grid
import GridWalk.Main
import GridWalk.Proofs.Grid.OpenStep
import GridWalk.Proofs.Grid.Taxicab
import GridWalk.Proofs.Movement.Replies
import GridWalk.Proofs.Search.Coverage
import GridWalk.Proofs.Search.Budget
import GridWalk.Proofs.Session.Shortest
import GridWalk.Proofs.Session.Walk
import GridWalk.Proofs.World.Distances
import GridWalk.Proofs.World.Reach
import GridWalk.Proofs.World.Turns
import GridWalk.Proofs.Clock.Firings
import GridWalk.Proofs.Movement.TimerTrace
import GridWalk.Proofs.Clock.Merge
import GridWalk.Proofs.Session.Pace
import GridWalk.Proofs.Layout.Rows
import GridWalk.Proofs.Layout.Scatter
import GridWalk.Proofs.Json.Number
import GridWalk.Proofs.Json.Reader
import GridWalk.Proofs.Text.Base64
import GridWalk.Proofs.Text.Numeral
import GridWalk.Proofs.Layout.Transfer
import GridWalk.Proofs.Layout.Depiction
import GridWalk.Proofs.Layout.Grammar
import GridWalk.Proofs.World.Mirror
import GridWalk.Proofs.Movement.EndedMoves
import GridWalk.Proofs.Movement.RouteReplay
import GridWalk.Proofs.Grid.StraightLine
import GridWalk.Proofs.Search.OpenGrid
import GridWalk.Proofs.Clock.Slices
import GridWalk.Proofs.Clock.Chronicle
import GridWalk.Proofs.Session.Batches
import GridWalk.Proofs.Layout.Building
import GridWalk.Proofs.Session.Edges
import GridWalk.Proofs.Search.Questions
import GridWalk.Proofs.Search.Selection
import GridWalk.Proofs.Search.SeenMap
import GridWalk.Proofs.Layout.Faults
import GridWalk.Proofs.Session.Completion
import GridWalk.Proofs.Session.Actions
import GridWalk.Proofs.World.WallListing
import GridWalk.Proofs.Search.Costs
import GridWalk.Proofs.Grid.Numbering
