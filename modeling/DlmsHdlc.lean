import DlmsHdlc.Library.Machine
import DlmsHdlc.Codec.RoundTrip
import DlmsHdlc.Segmentation.Limit
import DlmsHdlc.Segmentation.Encodable
import DlmsHdlc.StreamDecoder
import DlmsHdlc.Session.Bounds
import DlmsHdlc.Session.Quiescence
import DlmsHdlc.Codec.Canonical
import DlmsHdlc.Library.ShiftRegister
import DlmsHdlc.Codec.ErrorDetection
import DlmsHdlc.Go.Codec
import DlmsHdlc.StreamFault
import DlmsHdlc.Go.Agreement
import DlmsHdlc.Go.StreamDecoder
import DlmsHdlc.Session.Grammar
import DlmsHdlc.Session.Sequences
import DlmsHdlc.Library.Outlet
import DlmsHdlc.StreamGrammar
import DlmsHdlc.CApi.Calls
import DlmsHdlc.CApi.GoCalls
import DlmsHdlc.CApi.Outlets
import DlmsHdlc.CApi.Delivery
import DlmsHdlc.CApi.Handles
import DlmsHdlc.CApi.Completion
import DlmsHdlc.CApi.Decoding
import DlmsHdlc.CApi.Contract
import DlmsHdlc.Go.Reassembly
import DlmsHdlc.CApi.Repetition
import DlmsHdlc.CApi.Agreement
import DlmsHdlc.CApi.Interchange
import DlmsHdlc.Go.Session
import DlmsHdlc.Go.Link
import DlmsHdlc.Go.Crossing
import DlmsHdlc.Library.PrefixCode
import DlmsHdlc.AddressCode
import DlmsHdlc.DeviceAddress
import DlmsHdlc.Codec.Completeness
import DlmsHdlc.StreamBound
import DlmsHdlc.Library.CyclicCode
import DlmsHdlc.Codec.PolynomialCrc
import DlmsHdlc.Codec.SizeCheck
import DlmsHdlc.Codec.Effects
import DlmsHdlc.Library.Checked
import DlmsHdlc.Codec.DecodeAccess
import DlmsHdlc.Library.Grouping
import DlmsHdlc.Segmentation.Reference
import DlmsHdlc.Session.UserInformation
import DlmsHdlc.Library.Placement
import DlmsHdlc.Transport.Placement
import DlmsHdlc.CApi.Placement
import DlmsHdlc.Library.FlaggedCode
import DlmsHdlc.Transport.Line
import DlmsHdlc.Segmentation.GoSegmenter
import DlmsHdlc.Transport.Pipeline
import DlmsHdlc.Session.ByteLink
import DlmsHdlc.Library.LossyLink
import DlmsHdlc.Interop.Peer
import DlmsHdlc.Interop.Link
import DlmsHdlc.Interop.Transfer
import DlmsHdlc.Library.Registry
import DlmsHdlc.CApi.Registry
import DlmsHdlc.Interop.Conformance
import DlmsHdlc.Codec.Validation
import DlmsHdlc.Library.Medium
import DlmsHdlc.Interop.SharedLine
