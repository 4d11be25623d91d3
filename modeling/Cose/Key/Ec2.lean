import Cose.Key.Basic

/-!
# Elliptic curve keys as key parameters

The parameters of a COSE key on a curve: the registered name of the curve, and the coordinates and
the secret number at the width of the curve.

## Main definitions

* `Ec2Key`, `Key.toEc2`: the parameters, and those of a key
-/

namespace Cose

/-- **The parameters of a key on a curve.** A public key has no secret number. -/
structure Ec2Key where
  curve : String
  x : Bytes
  y : Bytes
  d : Option Bytes

/-- The name of a curve that COSE keys have. -/
def Curve.ec2Name? : Curve → Option String
  | .p256 => some "P_256"
  | .p384 => some "P_384"
  | .p521 => some "P_521"
  | .secp256k1 | .other .. => none

/-- **The parameters of a key.** Only keys on a curve have them. -/
def Key.toEc2 : Key → Except Error Ec2Key
  | .ec curve x y secret =>
    match curve.ec2Name? with
    | none => .error (.argument (.unsupportedNamedCurve curve.name))
    | some name =>
      let write := Bytes.ofNatWidth curve.size
      .ok ⟨name, write x, write y, secret.map write⟩
  | _ => .error (.fault .attribute)

end Cose
