import Rover.Main
import Rover.Performance
import Rover.Proofs.CommandLine.Override
import Rover.Proofs.Config.Loading
import Rover.Proofs.Config.Stored
import Rover.Proofs.Monitor.Settings
import Rover.Proofs.Monitor.Threshold
import Rover.Proofs.Parameters.Wait
import Rover.Proofs.Performance.Course
import Rover.Proofs.Program.Builder
import Rover.Proofs.Program.Text
import Rover.Proofs.Recording.Extremes
import Rover.Proofs.Recording.Period
import Rover.Proofs.Robot.Replay
import Rover.Proofs.Session.Attempts
import Rover.Proofs.Session.Connection
import Rover.Proofs.Session.Contract
import Rover.Proofs.Session.Parameters
import Rover.Proofs.Session.Readings
import Rover.Proofs.Session.ShutOff
import Rover.Proofs.Session.Ticks
