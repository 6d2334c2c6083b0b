import OtpRegistrar.Text.Utf8
import OtpRegistrar.Text.Width
import OtpRegistrar.Text.Casing
import OtpRegistrar.Text.Blank
import OtpRegistrar.Value.Scalar
import OtpRegistrar.Value.Layout
import OtpRegistrar.Otp
import OtpRegistrar.NamedCode.Table
import OtpRegistrar.Arguments.Constraint
import OtpRegistrar.GlobalOptions
import OtpRegistrar.FileTree
import OtpRegistrar.Failure.Raised
import OtpRegistrar.Config.Store
import OtpRegistrar.Log.Redaction
import OtpRegistrar.Log.Registry
import OtpRegistrar.Text.Template
import OtpRegistrar.Text.Lines
import OtpRegistrar.Directory.Address
import OtpRegistrar.Directory.Settings
import OtpRegistrar.Directory.DeviceRequest
import OtpRegistrar.Directory.Result
import OtpRegistrar.Failure.Fault
import OtpRegistrar.Log.Target
import OtpRegistrar.Host.Output
import OtpRegistrar.Log.Setup
import OtpRegistrar.Password.Reading
import OtpRegistrar.Directory.Session
import OtpRegistrar.Registration.Options
import OtpRegistrar.Invocation
import OtpRegistrar.Announcement
import OtpRegistrar.Main
import OtpRegistrar.Proofs.Config.Logging
import OtpRegistrar.Proofs.Host.Course
import OtpRegistrar.Proofs.Directory.Session
import OtpRegistrar.Proofs.Registration.Stages
import OtpRegistrar.Proofs.Registration.Order
import OtpRegistrar.Proofs.Arguments.Segment
import OtpRegistrar.Proofs.Directory.Ber
import OtpRegistrar.Proofs.Directory.DeviceRequest
import OtpRegistrar.Proofs.Registration.Request
import OtpRegistrar.Proofs.Directory.Security
import OtpRegistrar.Proofs.Registration.Security
import OtpRegistrar.Proofs.Directory.Closing
import OtpRegistrar.Proofs.Arguments.Redaction
import OtpRegistrar.Proofs.Registration.Secrecy
import OtpRegistrar.Proofs.Invocation
import OtpRegistrar.Proofs.Arguments.Grammar
import OtpRegistrar.Proofs.Arguments.Constraint
import OtpRegistrar.Proofs.Registration.Binding
import OtpRegistrar.Proofs.ConfigFile
import OtpRegistrar.Proofs.Escaping
import OtpRegistrar.Proofs.Config.Precedence
import OtpRegistrar.Proofs.ConfigFile.Appending
import OtpRegistrar.Proofs.Arguments.Syntax
import OtpRegistrar.Proofs.Registration.Credentials
import OtpRegistrar.Proofs.ConfigFile.Restricting
import OtpRegistrar.Proofs.Config.Conversion
import OtpRegistrar.Proofs.Otp
import OtpRegistrar.Proofs.GlobalOptions.Verbosity
import OtpRegistrar.Proofs.Config.Registering
import OtpRegistrar.Proofs.Registration.Identity
import OtpRegistrar.Proofs.NamedCode.Lookup
import OtpRegistrar.Proofs.Log.Failing
import OtpRegistrar.Proofs.Directory.Submitting
import OtpRegistrar.Proofs.Registration.Numbers
import OtpRegistrar.Proofs.Arguments.Declaration
import OtpRegistrar.Proofs.Config.Unset
