import ElevatorController.Machinery.Buffer
import ElevatorController.Machinery.SlotTable
import ElevatorController.Machinery.Runs
import ElevatorController.Numbers.SixDigits
import ElevatorController.Text.PrintReal
import ElevatorController.Model.Car
import ElevatorController.Model.Outputs
import ElevatorController.Model.Values
import ElevatorController.Model.Image
import ElevatorController.Model.Device
import ElevatorController.Car.Tick
import ElevatorController.Car.Service
import ElevatorController.Outputs.Commands
import ElevatorController.Backup.Image
import ElevatorController.Backup.RoundTrip
import ElevatorController.Values.Database
import ElevatorController.Device.Silent
import ElevatorController.Model.Frame
import ElevatorController.Wire.Codec
import ElevatorController.Wire.RoundTrip
import ElevatorController.Machinery.Answers
import ElevatorController.File.Deleted
import ElevatorController.Backup.Grammar
import ElevatorController.Values.Exchange
import ElevatorController.Device.Restart
import ElevatorController.Car.Control
import ElevatorController.Clock.Synchronization
import ElevatorController.Device.Password
import ElevatorController.Device.CharString
import ElevatorController.Wire.Names
import ElevatorController.Wire.Truncation
import ElevatorController.Wire.SendFilter
import ElevatorController.Wire.Summary
import ElevatorController.Car.Paging
import ElevatorController.Backup.Visits
import ElevatorController.File.ModificationDate
import ElevatorController.Car.Timing
import ElevatorController.Transport.Peers
import ElevatorController.Wire.PropertyMultiple
import ElevatorController.Peer.Reading
import ElevatorController.Peer.Exchange
import ElevatorController.Wire.Notifications
