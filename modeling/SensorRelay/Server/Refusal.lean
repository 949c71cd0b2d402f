import SensorRelay.Auth.Issuer

/-!
# Refusals

Why the server refuses or fails a call. Every cause has one status.
-/

namespace SensorRelay

inductive Refusal
  | unauthenticated
  | sensorDetailsMissing
  | sensorTaken
  | notASensor
  | sensorUnavailable
  | sensorStreamFailed
  | depthNotPositive
  | malformedSensorId
  | sensorMissing
  | clientDetailsMissing
  | clientTaken
  | wrongCredentials
  | notAClient
  | unknownLogin
  | clientStreamFailed
  | unbuffered
deriving DecidableEq, Repr

def Refusal.status : Refusal → Rpc.Status
  | unauthenticated => Auth.Issuer.rejected
  | sensorDetailsMissing => ⟨.invalidArgument, "Sensor name and location are required"⟩
  | sensorTaken => ⟨.alreadyExists, "Sensor with given name and location already exists"⟩
  | notASensor => ⟨.permissionDenied, "Token does not belong to a sensor"⟩
  | sensorUnavailable => ⟨.notFound, "Token you specified has no sensor associated with it. " ++
      "Or this sensor is already connected"⟩
  | sensorStreamFailed => ⟨.unknown, "Sensor sent an error"⟩
  | depthNotPositive => ⟨.invalidArgument, "Depth must be greater than 0"⟩
  | malformedSensorId => ⟨.invalidArgument, "Sensor id is not a valid UUID"⟩
  | sensorMissing => ⟨.notFound, "Sensor with given id does not exist"⟩
  | clientDetailsMissing => ⟨.invalidArgument, "Login, password and email are required"⟩
  | clientTaken => ⟨.alreadyExists, "Client with given login or email already exists"⟩
  | wrongCredentials => ⟨.unauthenticated, "Client with given credentials does not exist"⟩
  | notAClient => ⟨.permissionDenied, "Token does not belong to a client"⟩
  | unknownLogin => ⟨.unauthenticated, "Wrong token provided"⟩
  | clientStreamFailed => ⟨.unknown, "Error on client side detected"⟩
  | unbuffered => ⟨.cancelled, "h2 protocol error: http2 error"⟩

end SensorRelay
