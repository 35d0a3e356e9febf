import Trillionnium.ToolBridge.Lemmas.Closure

/-!
The preflight of the bridge against the validation of the runtime. Both make the same checks, except
that the bridge does not look at the timeout.
-/

namespace ToolBridge

open Concurrent Except
open ProcessRuntime (MechanicalLimits PtySize maxRuntimeRequestTimeout)

def DirectToolRequest.timeout : DirectToolRequest → Option Nat
  | .shell request => request.timeout
  | .adb request => request.timeout

def DirectToolRequest.validate (request : DirectToolRequest) (pty : Option PtySize)
    (limits : MechanicalLimits) : ProcessRuntime.Result Unit := do
  match pty with
  | some size => size.validate
  | none => pure ()
  match request with
  | .shell request => ProcessRuntime.validateShellRequest request limits
  | .adb request => ProcessRuntime.validateAdbRequest request limits

section Agreement

theorem toOption_reject [Decidable c] :
    (reject c message).toOption = (ProcessRuntime.reject c message).toOption := by
  unfold reject ProcessRuntime.reject
  split
  next => rfl
  next => rfl

theorem toOption_describe (result : ProcessRuntime.Result Unit) :
    (describe result).toOption = result.toOption := by
  cases result with
  | error _ | ok => rfl

theorem toOption_addBytes (total bytes : Nat) (label : String) :
    (addBytes total bytes label).toOption
      = (ProcessRuntime.addBytes total bytes label).toOption := by
  unfold addBytes ProcessRuntime.addBytes
  cases Checked.add total bytes with
  | none | some _ => rfl

theorem toOption_validatePath (path : Json.Bytes) (label : String) (maximum : Nat)
    (allowEmpty : Bool) : (validatePath path label maximum allowEmpty).toOption
      = (ProcessRuntime.validateOsValue path label maximum allowEmpty).toOption := by
  apply toOption_reject

theorem toOption_validateArgv (argv : List String) (label : String) (limits : MechanicalLimits) :
    (validateArgv argv label limits).toOption
      = (ProcessRuntime.validateArgv argv limits label).toOption := by
  unfold validateArgv ProcessRuntime.validateArgv
  simp only [toOption_bind, toOption_reject]
  rw [toOption_foldlM]
  intro total argument
  unfold validateText ProcessRuntime.validateScalar
  simp only [toOption_bind, toOption_validatePath, toOption_addBytes]

theorem toOption_addVariable (total : Nat) (entry : String × Option String) :
    (addVariable total entry).toOption = (ProcessRuntime.addVariable total entry).toOption := by
  obtain ⟨key, value⟩ := entry
  unfold addVariable ProcessRuntime.addVariable
  cases value with
  | none => simp only [toOption_bind, toOption_reject, toOption_addBytes]; rfl
  | some value => simp only [toOption_bind, toOption_reject, toOption_addBytes]

theorem toOption_validateCommon (callId : String) (targetId : Option String)
    (cwd : Option Json.Bytes) (environment : ProcessRuntime.EnvironmentDelta) (stdin : Json.Bytes)
    (limits : MechanicalLimits) : (validateCommon callId targetId cwd environment stdin limits).toOption
      = (ProcessRuntime.validateCommonRequest callId targetId cwd environment stdin limits).toOption := by
  unfold validateCommon ProcessRuntime.validateCommonRequest
  cases targetId <;> cases cwd <;>
    simp only [validateText, ProcessRuntime.validateScalar, toOption_bind, toOption_reject,
      toOption_validatePath, toOption_foldlM toOption_addVariable]

theorem exists_normalizedTimeout_iff (timeout : Option Nat) (limits : MechanicalLimits) :
    (∃ t, ProcessRuntime.normalizedTimeout timeout limits = .ok t)
      ↔ ∀ t ∈ timeout, t ≤ maxRuntimeRequestTimeout := by
  cases timeout with
  | none => simp [ProcessRuntime.normalizedTimeout]
  | some t =>
    by_cases hzero : t = 0
    . simp [ProcessRuntime.normalizedTimeout, hzero]
    . by_cases hbound : t > maxRuntimeRequestTimeout
      . simp [ProcessRuntime.normalizedTimeout, hzero, hbound]
      . simp [ProcessRuntime.normalizedTimeout, hzero, hbound, not_lt.mp hbound]

theorem reject_pty_eq_ok_iff (pty : Option PtySize) :
    reject (pty.any fun size => size.rows == 0 || size.cols == 0) "PTY rows and cols must be non-zero"
      = .ok () ↔ ∀ size ∈ pty, size.validate = .ok () := by
  rw [eq_ok_congr toOption_reject, ProcessRuntime.reject_eq_ok]
  cases pty with
  | none => simp
  | some size => simp [PtySize.validate, ProcessRuntime.reject_eq_ok]

theorem validate_eq_ok_iff (request : DirectToolRequest) (pty : Option PtySize)
    (limits : MechanicalLimits) : request.validate pty limits = .ok ()
      ↔ validateRuntimeRequest request pty limits = .ok ()
        ∧ ∀ t ∈ request.timeout, t ≤ maxRuntimeRequestTimeout := by
  have hpath := fun path label maximum allowEmpty =>
    eq_ok_congr (toOption_validatePath path label maximum allowEmpty) ()
  have hargv := fun argv label => eq_ok_congr (toOption_validateArgv argv label limits) ()
  have hcommon := fun callId targetId cwd environment stdin =>
    eq_ok_congr (toOption_validateCommon callId targetId cwd environment stdin limits) ()
  have hlimits := eq_ok_congr (toOption_describe limits.validate) ()
  have htimeout := fun timeout => (exists_normalizedTimeout_iff timeout limits).symm
  cases request with
  | shell request =>
    obtain ⟨callId, targetId, invocation, shellExecutable, cwd, env, stdin, timeout⟩ := request
    cases invocation <;> cases pty <;>
      simp only [DirectToolRequest.validate, validateRuntimeRequest, DirectToolRequest.timeout,
        ProcessRuntime.validateShellRequest, validateText, ProcessRuntime.validateScalar,
        bind_eq_ok, Unique.exists_iff, hpath, hargv, hcommon, hlimits, htimeout,
        reject_pty_eq_ok_iff] <;>
      simp <;> tauto
  | adb request =>
    cases pty <;>
      simp only [DirectToolRequest.validate, validateRuntimeRequest, DirectToolRequest.timeout,
        ProcessRuntime.validateAdbRequest, bind_eq_ok, Unique.exists_iff, hpath, hargv,
        hcommon, hlimits, htimeout, reject_pty_eq_ok_iff] <;>
      simp <;> tauto

end Agreement

section Refusal

variable {limits : MechanicalLimits} {rounds : Nat}

theorem keeps_executeValidated (hspec : valid = .ok () → ∃ s, spec = .ok s) :
    Monitor.free.Keeps () (ProcessRuntime.executeValidated valid callId targetId tool
      (ProcessRuntime.executeSpec spec limits rounds))
      (fun result _ => (∃ terminal, result = .ok terminal) ↔ valid = .ok ()) := by
  cases valid with
  | error error =>
    change _ ↔ _
    simp
  | ok =>
    obtain ⟨s, rfl⟩ := hspec rfl
    refine ProcessRuntime.keeps_executeAfterAcceptance ?_ ?_
    . intro terminal _
      simp
    . unfold ProcessRuntime.executeSpec
      apply Monitor.keeps_free_bind
      intro terminal
      change _ ↔ _
      simp

theorem exists_shellSpec {request : ProcessRuntime.ShellExecRequest}
    (h : ProcessRuntime.validateShellRequest request limits = .ok ()) :
    ∃ spec, ProcessRuntime.shellSpec request limits = .ok spec := by
  obtain ⟨timeout, htimeout⟩ := (exists_normalizedTimeout_iff _ limits).mpr
    ((validate_eq_ok_iff (.shell request) none limits).mp h).2
  simp only [DirectToolRequest.timeout] at htimeout
  simp [ProcessRuntime.shellSpec, h, htimeout]

theorem exists_adbSpec {request : ProcessRuntime.AdbExecRequest}
    (h : ProcessRuntime.validateAdbRequest request limits = .ok ()) :
    ∃ spec, ProcessRuntime.adbSpec request limits = .ok spec := by
  obtain ⟨timeout, htimeout⟩ := (exists_normalizedTimeout_iff _ limits).mpr
    ((validate_eq_ok_iff (.adb request) none limits).mp h).2
  simp only [DirectToolRequest.timeout] at htimeout
  simp [ProcessRuntime.adbSpec, h, htimeout]

theorem exists_withPty {size : PtySize} (hspec : valid = .ok () → ∃ s, spec = .ok s)
    (h : (do size.validate; valid) = .ok ()) :
    ∃ s, ProcessRuntime.withPty size spec = .ok s := by
  obtain ⟨_, hsize, hvalid⟩ := bind_eq_ok.mp h
  obtain ⟨s, rfl⟩ := hspec hvalid
  simp [ProcessRuntime.withPty, hsize]

theorem keeps_executeRuntime {limits : BridgeLimits} :
    Monitor.free.Keeps () (executeRuntime call limits rounds) (fun result _ =>
      (∃ terminal, result = .ok terminal)
        ↔ call.request.validate call.pty limits.effectiveRuntime = .ok ()) := by
  unfold executeRuntime DirectToolRequest.validate
  cases call.request with
  | shell request =>
    cases call.pty with
    | none => exact keeps_executeValidated exists_shellSpec
    | some size => exact keeps_executeValidated (exists_withPty exists_shellSpec)
  | adb request =>
    cases call.pty with
    | none => exact keeps_executeValidated exists_adbSpec
    | some size => exact keeps_executeValidated (exists_withPty exists_adbSpec)

end Refusal

theorem refused_iff_timeout (request pty limits) :
    (DirectToolRequest.validate request pty limits = .ok ()
      ↔ validateRuntimeRequest request pty limits = .ok ()
        ∧ ∀ t ∈ request.timeout, t ≤ maxRuntimeRequestTimeout)
    ∧ ∀ call limits rounds trace result, preflight call limits = .ok () →
      (executeRuntime call limits rounds).Runs trace result →
      ((∃ terminal, result = .ok terminal)
        ↔ ∀ t ∈ call.request.timeout, t ≤ maxRuntimeRequestTimeout) := by
  constructor
  . exact validate_eq_ok_iff request pty limits
  . intro call limits rounds trace result hpreflight hrun
    have hvalid : validateRuntimeRequest call.request call.pty limits.effectiveRuntime = .ok () := by
      unfold preflight at hpreflight
      obtain ⟨_, _, hpreflight⟩ := bind_eq_ok.mp hpreflight
      obtain ⟨_, _, hpreflight⟩ := bind_eq_ok.mp hpreflight
      exact hpreflight
    rw [keeps_executeRuntime.runs hrun, validate_eq_ok_iff]
    simp [hvalid]

set_option maxRecDepth 10000

theorem refused_sampleCall : preflight sampleCall .default = .ok ()
    ∧ sampleCall.request.validate sampleCall.pty BridgeLimits.default.effectiveRuntime
      = .error (.invalidRequest "request timeout exceeds hard bound 86400s")
    ∧ executeRuntime sampleCall .default 0
      = .pure (.error (.invalidRequest "request timeout exceeds hard bound 86400s")) := by
  refine ⟨rfl, rfl, rfl⟩

end ToolBridge
