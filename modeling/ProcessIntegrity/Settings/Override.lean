import ProcessIntegrity.Log
import ProcessIntegrity.Settings.Change
/-!
# Overrides

Five settings can be overridden by environment variables. The variables are asked for in a fixed
order and each present value is taken over at once; the first value that is refused ends it, and the
variables behind it are not asked for.
-/

namespace ProcessIntegrity.Settings

inductive Override where
  | exceptionCheck
  | threshold
  | iterations
  | block
  | level
  deriving DecidableEq, Repr

namespace Override

def all : List Override :=
  [exceptionCheck, threshold, iterations, block, level]

def variableName : Override → String
  | exceptionCheck => "NATIVE_GUARD_ENABLE_EXCEPTION_CHECK"
  | threshold => "NATIVE_GUARD_TIMING_THRESHOLD"
  | iterations => "NATIVE_GUARD_WORKLOAD_ITERATIONS"
  | block => "NATIVE_GUARD_BLOCK_ON_DETECTION"
  | level => "NATIVE_GUARD_LOG_LEVEL"

def read (o : Override) (raw : String) : Except Stop Change :=
  match o with
  | exceptionCheck => .exceptionCheck <$> readBool o.variableName raw
  | threshold => .threshold <$> readThreshold raw
  | iterations => .iterations <$> readIterations o.variableName raw
  | block => .block <$> readBool o.variableName raw
  | level => .ok (.level (Text.trimString raw))

end Override

abbrev Environment := String → Option String

@[ext]
structure Overridden where
  settings : Settings
  lookups : List String
  result : Except Stop Unit

def overrideWith (env : Environment) (s : Settings) : List Override → Overridden
  | [] => ⟨s, [], .ok ()⟩
  | o :: rest =>
    match (env o.variableName).map o.read with
    | none =>
      let later := overrideWith env s rest
      { later with lookups := o.variableName :: later.lookups }
    | some (.ok c) =>
      let later := overrideWith env (c.apply s) rest
      { later with lookups := o.variableName :: later.lookups }
    | some (.error e) => ⟨s, [o.variableName], .error e⟩

def override (s : Settings) (env : Environment) : Overridden :=
  overrideWith env s Override.all

/-- What is logged about overriding: the probe settings in effect, if it went through. -/
def Overridden.records (o : Overridden) : List Log.Record :=
  match o.result with
  | .ok () => [⟨.debug, .config, s!"Effective probe config: {o.settings.probe.render}"⟩]
  | .error _ => []

end ProcessIntegrity.Settings
