import Gloc.Transition.Execution
import Gloc.Transition.Loops
import Gloc.Transition.Totals
import Gloc.Transition.Processes
import Gloc.Transition.Rotations
import Gloc.Transition.Exchanges
import Gloc.Channel.Interface
import Gloc.Channel.Monitor
import Gloc.Channel.Threads
import Gloc.Channel.Steps
import Gloc.Channel.Flags
import Gloc.Channel.GoChannel
import Gloc.Channel.Refinement
import Gloc.Channel.Wakeups
import Gloc.Channel.Clients
import Gloc.Channel.Readiness
import Gloc.Channel.Schedules
import Gloc.Channel.Ownership
import Gloc.Channel.Attempts
import Gloc.Channel.Pipe
import Gloc.Channel.Accounts
import Gloc.Channel.Delivery
import Gloc.Channel.Producers
import Gloc.Channel.Dialogue
import Gloc.Channel.Exceptions
import Gloc.Channel.ThrowingSends
import Gloc.Channel.ThrowingReceives
import Gloc.Channel.Network
import Gloc.Channel.Scripts
import Gloc.Channel.Balance
import Gloc.Channel.Select
import Gloc.Channel.Cases
import Gloc.Channel.Selecting
import Gloc.Channel.Choices
import Gloc.Channel.Backlogs
import Gloc.Channel.Streams
import Gloc.Channel.Halting
import Gloc.Channel.Capacities
import Gloc.Channel.Polling
import Gloc.Channel.Impasses
import Gloc.Channel.Collisions
import Gloc.Files.Bytes
import Gloc.Files.Ifstream
import Gloc.Files.Requests
import Gloc.Files.Cuboid
import Gloc.Files.Frames
import Gloc.Files.Records
import Gloc.Files.Payload
import Gloc.Files.Counts
import Gloc.Files.Laserxa
import Gloc.Files.Scans
import Gloc.Files.Histories
import Gloc.Files.Views
import Gloc.Files.Sequential
import Gloc.Stream.Matrix
import Gloc.Stream.Conversion
import Gloc.Stream.ReadNode
import Gloc.Stream.StreamReader
import Gloc.Stream.Destruction
import Gloc.Stream.ReadAhead
import Gloc.Stream.Pictures
import Gloc.Stream.Remnants
import Gloc.Viewer.Nodes
import Gloc.Viewer.Pipeline
import Gloc.Viewer.Windows
import Gloc.Viewer.Traffic
import Gloc.Viewer.Backlog
import Gloc.Viewer.Averages
import Gloc.Math.Polynome
import Gloc.Math.Lanczos
import Gloc.Wavelets.Coefficients
import Gloc.Wavelets.Daubechies
import Gloc.Wavelets.Biorthogonal
import Gloc.Wavelets.Coiflets
import Gloc.Wavelets.Symlets
import Gloc.Wavelets.Filters
import Gloc.Signals.Taps
import Gloc.Signals.FilterBanks
import Gloc.Wavelets.Reconstruction
