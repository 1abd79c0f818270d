import Mavlink.Dialect.Declaration

/-!
# A sample dialect

Five messages of the common dialect, declared as they are there, and the enumerations that they
refer to.
-/

namespace Mavlink.Sample

/-- A base field that refers to no enumeration. -/
def field (typeName name : String) : FieldDeclaration :=
  { typeName, name, arrayLength := 0, isExtension := false, enumName? := none }

/-- A base field that refers to an enumeration. -/
def enumField (typeName name enum : String) : FieldDeclaration :=
  { field typeName name with enumName? := some enum }

/-- An extension field. -/
def extensionField (typeName name : String) : FieldDeclaration :=
  { field typeName name with isExtension := true }

/-- Tells that a system is alive. -/
def heartbeat : MessageDeclaration where
  id := 0
  name := "HEARTBEAT"
  fields := [
    enumField "uint8_t" "type" "MAV_TYPE",
    enumField "uint8_t" "autopilot" "MAV_AUTOPILOT",
    enumField "uint8_t" "base_mode" "MAV_MODE_FLAG",
    field "uint32_t" "custom_mode",
    enumField "uint8_t" "system_status" "MAV_STATE",
    field "uint8_t_mavlink_version" "mavlink_version"]

/-- Tells the state of the on-board systems. -/
def sysStatus : MessageDeclaration where
  id := 1
  name := "SYS_STATUS"
  fields := [
    field "uint32_t" "onboard_control_sensors_present",
    field "uint32_t" "onboard_control_sensors_enabled",
    field "uint32_t" "onboard_control_sensors_health",
    field "uint16_t" "load",
    field "uint16_t" "voltage_battery",
    field "int16_t" "current_battery",
    field "int8_t" "battery_remaining",
    field "uint16_t" "drop_rate_comm",
    field "uint16_t" "errors_comm",
    field "uint16_t" "errors_count1",
    field "uint16_t" "errors_count2",
    field "uint16_t" "errors_count3",
    field "uint16_t" "errors_count4",
    extensionField "uint32_t" "onboard_control_sensors_present_extended",
    extensionField "uint32_t" "onboard_control_sensors_enabled_extended",
    extensionField "uint32_t" "onboard_control_sensors_health_extended"]

/-- Tells the value of a parameter. -/
def paramValue : MessageDeclaration where
  id := 22
  name := "PARAM_VALUE"
  fields := [
    field "char[16]" "param_id",
    field "float" "param_value",
    enumField "uint8_t" "param_type" "MAV_PARAM_TYPE",
    field "uint16_t" "param_count",
    field "uint16_t" "param_index"]

/-- Tells the attitude and its covariance. -/
def attitudeQuaternionCov : MessageDeclaration where
  id := 61
  name := "ATTITUDE_QUATERNION_COV"
  fields := [
    field "uint64_t" "time_usec",
    field "float[4]" "q",
    field "float" "rollspeed",
    field "float" "pitchspeed",
    field "float" "yawspeed",
    field "float[9]" "covariance"]

/-- Carries a text for the operator. -/
def statusText : MessageDeclaration where
  id := 253
  name := "STATUSTEXT"
  fields := [
    enumField "uint8_t" "severity" "MAV_SEVERITY",
    field "char[50]" "text",
    extensionField "uint16_t" "id",
    extensionField "uint8_t" "chunk_seq"]

/-- An enumeration with the given entries. -/
def enumeration (name : String) (entries : List (String × UInt64)) : Enumeration :=
  { name, isBitmask := false, entries := entries.map fun (n, v) => { name := n, value := v } }

/-- A bitmask with the given entries. -/
def bitmask (name : String) (entries : List (String × UInt64)) : Enumeration :=
  { enumeration name entries with isBitmask := true }

/-- The enumerations that the messages refer to. -/
def enums : List Enumeration := [
  enumeration "MAV_TYPE" [
    ("MAV_TYPE_GENERIC", 0), ("MAV_TYPE_FIXED_WING", 1), ("MAV_TYPE_QUADROTOR", 2),
    ("MAV_TYPE_GCS", 6)],
  enumeration "MAV_AUTOPILOT" [
    ("MAV_AUTOPILOT_GENERIC", 0), ("MAV_AUTOPILOT_ARDUPILOTMEGA", 3),
    ("MAV_AUTOPILOT_INVALID", 8), ("MAV_AUTOPILOT_PX4", 12)],
  bitmask "MAV_MODE_FLAG" [
    ("MAV_MODE_FLAG_CUSTOM_MODE_ENABLED", 1), ("MAV_MODE_FLAG_TEST_ENABLED", 2),
    ("MAV_MODE_FLAG_AUTO_ENABLED", 4), ("MAV_MODE_FLAG_GUIDED_ENABLED", 8),
    ("MAV_MODE_FLAG_STABILIZE_ENABLED", 16), ("MAV_MODE_FLAG_HIL_ENABLED", 32),
    ("MAV_MODE_FLAG_MANUAL_INPUT_ENABLED", 64), ("MAV_MODE_FLAG_SAFETY_ARMED", 128)],
  enumeration "MAV_STATE" [
    ("MAV_STATE_UNINIT", 0), ("MAV_STATE_BOOT", 1), ("MAV_STATE_CALIBRATING", 2),
    ("MAV_STATE_STANDBY", 3), ("MAV_STATE_ACTIVE", 4), ("MAV_STATE_CRITICAL", 5),
    ("MAV_STATE_EMERGENCY", 6), ("MAV_STATE_POWEROFF", 7)],
  enumeration "MAV_SEVERITY" [
    ("MAV_SEVERITY_EMERGENCY", 0), ("MAV_SEVERITY_ALERT", 1), ("MAV_SEVERITY_CRITICAL", 2),
    ("MAV_SEVERITY_ERROR", 3), ("MAV_SEVERITY_WARNING", 4), ("MAV_SEVERITY_NOTICE", 5),
    ("MAV_SEVERITY_INFO", 6), ("MAV_SEVERITY_DEBUG", 7)],
  enumeration "MAV_PARAM_TYPE" [
    ("MAV_PARAM_TYPE_UINT8", 1), ("MAV_PARAM_TYPE_INT8", 2), ("MAV_PARAM_TYPE_UINT16", 3),
    ("MAV_PARAM_TYPE_INT16", 4), ("MAV_PARAM_TYPE_UINT32", 5), ("MAV_PARAM_TYPE_INT32", 6),
    ("MAV_PARAM_TYPE_REAL32", 9)]]

/-- The sample dialect. -/
def dialect : Dialect where
  name := "sample"
  messages := [heartbeat, sysStatus, paramValue, attitudeQuaternionCov, statusText]
  enums := enums

end Mavlink.Sample
