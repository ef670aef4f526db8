import LightBridge.Action
import LightBridge.Bridge
import LightBridge.Discovery.Scan
import LightBridge.Race
import LightBridge.Proofs.Bridge.Outcomes
import LightBridge.Proofs.Config.Saved
import LightBridge.Proofs.Discovery.Answer
import LightBridge.Proofs.Discovery.Rounds
import LightBridge.Proofs.Light.Cycling
import LightBridge.Proofs.Light.Drift
import LightBridge.Proofs.Light.Resuming
import LightBridge.Proofs.Light.Tint
import LightBridge.Proofs.Light.Unable
import LightBridge.Proofs.Light.Waking
import LightBridge.Proofs.Light.Warmth
import LightBridge.Proofs.Queue.Pacing
import LightBridge.Proofs.Queue.Room
import LightBridge.Proofs.Session.Packet
import LightBridge.Proofs.Session.Upkeep
import LightBridge.Proofs.Station.Asked
import LightBridge.Proofs.Station.Awaited
import LightBridge.Proofs.Station.Disposal
import LightBridge.Proofs.Station.Neighbor
import LightBridge.Proofs.Station.Numbers
import LightBridge.Proofs.Station.Range
import LightBridge.Proofs.Station.Selection
import LightBridge.Proofs.Station.Stray
import LightBridge.Proofs.Wire.Checksum
