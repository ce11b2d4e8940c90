import SmartBike.Lib.Run
import SmartBike.Lib.CheckSend
import SmartBike.Lib.Delivery
import SmartBike.Lib.Framing
import SmartBike.Lib.Registry
import SmartBike.Lib.OnChange
import SmartBike.Lib.SharedLine
import SmartBike.Lib.Occurrence
import SmartBike.Lib.Utf16
import SmartBike.Lib.Json
import SmartBike.Lib.JsValue
import SmartBike.Lib.JsonParse
import SmartBike.Lib.Number
import SmartBike.Lib.Tally
import SmartBike.Lib.Simulation
import SmartBike.Lib.Pending
import SmartBike.Lib.Markup
import SmartBike.Parking.BeaconFinder
import SmartBike.Parking.Theft
import SmartBike.Parking.Threads
import SmartBike.Parking.Publication
import SmartBike.Parking.Absence
import SmartBike.Parking.Freshness
import SmartBike.Parking.ModeCheck
import SmartBike.Parking.Location
import SmartBike.Parking.Sampling
import SmartBike.Parking.Choice
import SmartBike.Parking.NoBeacon
import SmartBike.Parking.Blescan
import SmartBike.Parking.Accounting
import SmartBike.Lights.Echo
import SmartBike.Lights.CombinedMode
import SmartBike.Lights.Outputs
import SmartBike.Lights.TurnLights
import SmartBike.Lights.DrivingThread
import SmartBike.Lights.Mpu6050
import SmartBike.App.FirstActivity
import SmartBike.App.ModePosts
import SmartBike.App.Watcher
import SmartBike.App.Route
import SmartBike.App.Markers
import SmartBike.App.RoadResult
import SmartBike.App.Picking
import SmartBike.App.Address
import SmartBike.App.Maps
import SmartBike.App.ListViewAdapter
import SmartBike.App.SearchList
import SmartBike.App.Navi
import SmartBike.App.Blink
import SmartBike.App.ConElement
import SmartBike.App.Shown
import SmartBike.Gateway.Tas
import SmartBike.Gateway.Publish
import SmartBike.Gateway.Registration
import SmartBike.Gateway.Setup
import SmartBike.Gateway.Resources
import SmartBike.Gateway.Thyme
import SmartBike.Gateway.Notify
import SmartBike.Gateway.Quoting
import SmartBike.Gateway.Body
import SmartBike.Gateway.BodyStr
import SmartBike.Gateway.Post
import SmartBike.Gateway.MqttApp
import SmartBike.Gateway.MqttSetup
import SmartBike.Gateway.MqttBody
import SmartBike.App.ContentInstanceObject
import SmartBike.System.World
import SmartBike.System.Alarm
import SmartBike.System.Ride
