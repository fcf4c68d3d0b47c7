import ChannelSerde.Settings.DevServices

/-!
# What a registry is started with

The settings of a running registry are kept to be compared with those that the next build asks for.
Two snapshots are the same if they say the same, whatever the order in which variables are listed.
-/

namespace ChannelSerde

open Settings

/-- **What a registry is started with.** A port of zero is any free port. -/
structure Snapshot where
  enabled : Bool
  image : String
  port : Int
  isShared : Bool
  serviceName : String
  environment : Config.Properties
  deriving DecidableEq

namespace Snapshot

/-- What a registry is started with where nothing is said. -/
def standard : Snapshot :=
  { enabled := true, image := defaultImage, port := 0, isShared := true
    serviceName := defaultServiceName, environment := OrderedMap.empty }

/-- **The snapshot of settings.** -/
def ofSettings (s : DevServices) : Snapshot :=
  { enabled := s.enabled.getD true
    image := (DevServices.nonEmpty s.image).getD defaultImage
    port := (s.port.map fun p => (p.val : Int)).getD 0
    isShared := s.isShared
    serviceName := s.serviceName
    environment := s.environment }

/-- **Two snapshots say the same.** -/
def same (a b : Snapshot) : Bool :=
  a.enabled == b.enabled && a.image == b.image && a.port == b.port && a.isShared == b.isShared
    && a.serviceName == b.serviceName && a.environment.sameEntries b.environment

@[simp] theorem same_self (a : Snapshot) : a.same a = true := by
  simp [same]

theorem enabled_eq_of_same {a b : Snapshot} (h : a.same b = true) : a.enabled = b.enabled := by
  simp only [same, Bool.and_eq_true, beq_iff_eq] at h
  exact h.1.1.1.1.1

end Snapshot

end ChannelSerde
