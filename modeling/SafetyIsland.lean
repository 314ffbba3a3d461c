import SafetyIsland.Supervisor.FloorRun
import SafetyIsland.Supervisor.FaultRun
import SafetyIsland.Supervisor.Verdicts
import SafetyIsland.Handler.Loss
import SafetyIsland.Handler.Takeover
import SafetyIsland.Handler.StartUp
import SafetyIsland.Handler.Established
import SafetyIsland.Island.Floor
import SafetyIsland.Island.Engaged
import SafetyIsland.Island.FaultFinal
import SafetyIsland.Island.Watched
import SafetyIsland.Island.Tracking
import SafetyIsland.Kernel.Run
import SafetyIsland.Kernel.Resume
import SafetyIsland.Slots.Run
import SafetyIsland.Spins.Route
import SafetyIsland.SpinDiag.ActSound
import SafetyIsland.SpinDiag.Segments
import SafetyIsland.StopMode.Park
import SafetyIsland.Operator.AnyClock
import SafetyIsland.Trace.Completion
import SafetyIsland.Trace.RecordPolicy
import SafetyIsland.Trace.Reported
import SafetyIsland.Buttons.Account
import SafetyIsland.Markers.WellFormed
import SafetyIsland.Readout.Recovery
import SafetyIsland.Braking.Tightens
import SafetyIsland.Nodes.Excused
import SafetyIsland.Nodes.Operated
