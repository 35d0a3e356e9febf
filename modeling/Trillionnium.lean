import Trillionnium.CallRegistry.Lemmas.History
import Trillionnium.CallRegistry.Lemmas.Shared
import Trillionnium.ControlPlane.Lemmas.Agreement
import Trillionnium.ControlPlane.Lemmas.Audit
import Trillionnium.ControlPlane.Lemmas.Fencing
import Trillionnium.EventStore.Lemmas.Accepted
import Trillionnium.EventStore.Lemmas.Crash
import Trillionnium.EventStore.Lemmas.Migration
import Trillionnium.EventStore.Lemmas.Refused
import Trillionnium.Host.Lemmas.Close
import Trillionnium.Host.Lemmas.Ends
import Trillionnium.JobRegistry.Lemmas.Lifecycle
import Trillionnium.JobRuntime.Lemmas.Once
import Trillionnium.StreamWindow.Lemmas.Delivery
import Trillionnium.StreamWindow.Lemmas.Paging
import Trillionnium.TaskRegistry.Lemmas.Status
import Trillionnium.Telemetry.Lemmas.Summary
import Trillionnium.ToolBridge.Lemmas.Digest
import Trillionnium.ToolBridge.Lemmas.Preflight
import Trillionnium.Transport.Lemmas.Gap
import Trillionnium.Transport.Lemmas.Routing
import Trillionnium.Transport.Lemmas.Schedule
import Trillionnium.TurnLoop.Lemmas.Delivery
import Trillionnium.TurnLoop.Lemmas.Retain
