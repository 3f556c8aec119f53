import ShipSlap.Text.Ranges
/-!
The mapping table of Unicode Technical Standard 46 (IDNA compatibility processing), version 17:
for every code point, whether a domain name keeps it, drops it, refuses it or writes something
else in its place. Uppercase letters map to lowercase, full-width forms to their plain forms,
the ideographic full stop to a dot, and so on. A code point that version 17 leaves unassigned
is kept: only characters the standard has assigned are refused.

The table lists runs by their first code point in hexadecimal. A run is one status for all
its code points (`V` valid, `D` deviation, `I` ignored, `X` disallowed, `M` mapped to the code
points that follow, joined by `+`), a shift (`S` and a signed distance: each code point maps to
the one that far away), or a run of case pairs (`P`: each code point at an even distance from
the start maps to the next one, and the others are valid).
-/
namespace ShipSlap.Idna

open ShipSlap.Text

/-- What domain name processing does with a code point. -/
inductive Status where
  /-- kept as it is -/
  | valid
  /-- kept, under the nontransitional processing that names use today -/
  | deviation
  /-- dropped -/
  | ignored
  /-- refused: the name is invalid -/
  | disallowed
  /-- replaced by the given characters -/
  | mapped (image : List Char)
  deriving Repr, DecidableEq, Inhabited

/-- A run of the mapping table. -/
inductive Run where
  /-- every code point of the run has this status -/
  | uniform (s : Status)
  /-- each code point maps to the one at this signed distance -/
  | shifted (distance : Int)
  /-- case pairs: even distances from the start map to the next code point, odd ones are
  valid -/
  | paired
  deriving Repr, DecidableEq, Inhabited

/-- Reads a run from its letter and what follows it. -/
def Run.ofCode? (s : String) : Option Run :=
  match s.toList with
  | ['V'] => some (.uniform .valid)
  | ['D'] => some (.uniform .deviation)
  | ['I'] => some (.uniform .ignored)
  | ['X'] => some (.uniform .disallowed)
  | 'M' :: rest =>
    let cps := (String.ofList rest).splitOn "+" |>.filter (· ≠ "")
    some (.uniform (.mapped (cps.map fun h => Char.ofNat (hexValue h))))
  | 'S' :: rest => (String.ofList rest).toInt?.map .shifted
  | ['P'] => some .paired
  | _ => none

/-- The runs of the table, by their first code point. -/
def mappingTable : Array (Nat × Run) := readStarts Run.ofCode?
  (String.join [
    "0:V,41:S32,5b:V,80:X,a0:M20,a1:V,a8:M20+308,a9:V,aa:M61,ab:V,ad:I,ae:V,af:M20+304,b0:V,",
    "b2:S-128,b4:M20+301,b5:M3bc,b6:V,b8:M20+327,b9:M31,ba:M6f,bb:V,bc:M31+2044+34,",
    "bd:M31+2044+32,be:M33+2044+34,bf:V,c0:S32,d7:V,d8:S32,df:D,e0:V,100:P,12f:V,130:M69+307,",
    "131:V,132:M69+6a,134:P,137:V,139:P,13e:V,13f:M6c+b7,141:P,148:V,149:M2bc+6e,14a:P,177:V,",
    "178:Mff,179:P,17e:V,17f:M73,180:V,181:M253,182:P,185:V,186:M254,187:M188,188:V,189:S205,",
    "18b:M18c,18c:V,18e:M1dd,18f:M259,190:M25b,191:M192,192:V,193:M260,194:M263,195:V,196:M269,",
    "197:M268,198:M199,199:V,19c:M26f,19d:M272,19e:V,19f:M275,1a0:P,1a5:V,1a6:M280,1a7:M1a8,",
    "1a8:V,1a9:M283,1aa:V,1ac:M1ad,1ad:V,1ae:M288,1af:M1b0,1b0:V,1b1:S217,1b3:P,1b6:V,1b7:M292,",
    "1b8:M1b9,1b9:V,1bc:M1bd,1bd:V,1c4:M64+17e,1c7:M6c+6a,1ca:M6e+6a,1cd:P,1dc:V,1de:P,1ef:V,",
    "1f1:M64+7a,1f4:M1f5,1f5:V,1f6:M195,1f7:M1bf,1f8:P,21f:V,220:M19e,221:V,222:P,233:V,",
    "23a:M2c65,23b:M23c,23c:V,23d:M19a,23e:M2c66,23f:V,241:M242,242:V,243:M180,244:M289,245:M28c,",
    "246:P,24f:V,2b0:M68,2b1:M266,2b2:M6a,2b3:M72,2b4:M279,2b5:M27b,2b6:M281,2b7:M77,2b8:M79,",
    "2b9:V,2d8:M20+306,2d9:M20+307,2da:M20+30a,2db:M20+328,2dc:M20+303,2dd:M20+30b,2de:V,",
    "2e0:M263,2e1:M6c,2e2:M73,2e3:M78,2e4:M295,2e5:V,340:S-64,342:V,343:M313,344:M308+301,",
    "345:M3b9,346:V,34f:I,350:V,370:P,373:V,374:M2b9,375:V,376:M377,377:V,37a:M20+3b9,37b:V,",
    "37e:M3b,37f:M3f3,380:V,384:M20+301,385:M20+308+301,386:M3ac,387:Mb7,388:S37,38b:V,38c:M3cc,",
    "38d:V,38e:S63,390:V,391:S32,3a2:V,3a3:S32,3ac:V,3c2:D,3c3:V,3cf:M3d7,3d0:M3b2,3d1:M3b8,",
    "3d2:M3c5,3d3:M3cd,3d4:M3cb,3d5:M3c6,3d6:M3c0,3d7:V,3d8:P,3ef:V,3f0:M3ba,3f1:M3c1,3f2:M3c3,",
    "3f3:V,3f4:M3b8,3f5:M3b5,3f6:V,3f7:M3f8,3f8:V,3f9:M3c3,3fa:M3fb,3fb:V,3fd:S-130,400:S80,",
    "410:S32,430:V,460:P,481:V,48a:P,4bf:V,4c0:M4cf,4c1:P,4ce:V,4d0:P,52f:V,531:S48,557:V,",
    "587:M565+582,588:V,600:X,606:V,61c:X,61d:V,675:M627+674,676:M648+674,677:M6c7+674,",
    "678:M64a+674,679:V,6dd:X,6de:V,70f:X,710:V,890:X,892:V,8e2:X,8e3:V,958:M915+93c,",
    "959:M916+93c,95a:M917+93c,95b:M91c+93c,95c:M921+93c,95d:M922+93c,95e:M92b+93c,95f:M92f+93c,",
    "960:V,9dc:M9a1+9bc,9dd:M9a2+9bc,9de:V,9df:M9af+9bc,9e0:V,a33:Ma32+a3c,a34:V,a36:Ma38+a3c,",
    "a37:V,a59:Ma16+a3c,a5a:Ma17+a3c,a5b:Ma1c+a3c,a5c:V,a5e:Ma2b+a3c,a5f:V,b5c:Mb21+b3c,",
    "b5d:Mb22+b3c,b5e:V,e33:Me4d+e32,e34:V,eb3:Mecd+eb2,eb4:V,edc:Meab+e99,edd:Meab+ea1,ede:V,",
    "f0c:Mf0b,f0d:V,f43:Mf42+fb7,f44:V,f4d:Mf4c+fb7,f4e:V,f52:Mf51+fb7,f53:V,f57:Mf56+fb7,f58:V,",
    "f5c:Mf5b+fb7,f5d:V,f69:Mf40+fb5,f6a:V,f73:Mf71+f72,f74:V,f75:Mf71+f74,f76:Mfb2+f80,",
    "f77:Mfb2+f71+f80,f78:Mfb3+f80,f79:Mfb3+f71+f80,f7a:V,f81:Mf71+f80,f82:V,f93:Mf92+fb7,f94:V,",
    "f9d:Mf9c+fb7,f9e:V,fa2:Mfa1+fb7,fa3:V,fa7:Mfa6+fb7,fa8:V,fac:Mfab+fb7,fad:V,fb9:Mf90+fb5,",
    "fba:V,10a0:S7264,10c6:V,10c7:M2d27,10c8:V,10cd:M2d2d,10ce:V,10fc:M10dc,10fd:V,115f:I,1161:V,",
    "13f8:S-8,13fe:V,1680:X,1681:V,17b4:I,17b6:V,180b:I,1810:V,1c80:M432,1c81:M434,1c82:M43e,",
    "1c83:M441,1c84:M442,1c86:M44a,1c87:M463,1c88:Ma64b,1c89:M1c8a,1c8a:V,1c90:S-3008,1cbb:V,",
    "1cbd:S-3008,1cc0:V,1d2c:M61,1d2d:Me6,1d2e:M62,1d2f:V,1d30:S-7372,1d32:M1dd,1d33:S-7372,",
    "1d3b:V,1d3c:M6f,1d3d:M223,1d3e:M70,1d3f:M72,1d40:S-7372,1d42:M77,1d43:M61,1d44:S-6900,",
    "1d46:M1d02,1d47:M62,1d48:S-7396,1d4a:M259,1d4b:S-6896,1d4d:M67,1d4e:V,1d4f:M6b,1d50:M6d,",
    "1d51:M14b,1d52:M6f,1d53:M254,1d54:S-62,1d56:M70,1d57:S-7395,1d59:M1d1d,1d5a:M26f,1d5b:M76,",
    "1d5c:M1d25,1d5d:S-6571,1d60:S-6554,1d62:M69,1d63:M72,1d64:S-7407,1d66:S-6580,1d68:M3c1,",
    "1d69:S-6563,1d6b:V,1d78:M43d,1d79:V,1d9b:M252,1d9c:M63,1d9d:M255,1d9e:Mf0,1d9f:M25c,",
    "1da0:M66,1da1:M25f,1da2:M261,1da3:M265,1da4:S-6972,1da7:M1d7b,1da8:M29d,1da9:M26d,",
    "1daa:M1d85,1dab:M29f,1dac:M271,1dad:M270,1dae:S-6972,1db2:M278,1db3:S-6961,1db5:M1ab,",
    "1db6:S-6957,1db8:M1d1c,1db9:S-6958,1dbb:M7a,1dbc:S-6956,1dbf:M3b8,1dc0:V,1e00:P,1e95:V,",
    "1e9a:M61+2be,1e9b:M1e61,1e9c:V,1e9e:Mdf,1e9f:V,1ea0:P,1eff:V,1f08:S-8,1f10:V,1f18:S-8,",
    "1f1e:V,1f28:S-8,1f30:V,1f38:S-8,1f40:V,1f48:S-8,1f4e:V,1f59:M1f51,1f5a:V,1f5b:M1f53,1f5c:V,",
    "1f5d:M1f55,1f5e:V,1f5f:M1f57,1f60:V,1f68:S-8,1f70:V,1f71:M3ac,1f72:V,1f73:M3ad,1f74:V,",
    "1f75:M3ae,1f76:V,1f77:M3af,1f78:V,1f79:M3cc,1f7a:V,1f7b:M3cd,1f7c:V,1f7d:M3ce,1f7e:V,",
    "1f80:M1f00+3b9,1f81:M1f01+3b9,1f82:M1f02+3b9,1f83:M1f03+3b9,1f84:M1f04+3b9,1f85:M1f05+3b9,",
    "1f86:M1f06+3b9,1f87:M1f07+3b9,1f88:M1f00+3b9,1f89:M1f01+3b9,1f8a:M1f02+3b9,1f8b:M1f03+3b9,",
    "1f8c:M1f04+3b9,1f8d:M1f05+3b9,1f8e:M1f06+3b9,1f8f:M1f07+3b9,1f90:M1f20+3b9,1f91:M1f21+3b9,",
    "1f92:M1f22+3b9,1f93:M1f23+3b9,1f94:M1f24+3b9,1f95:M1f25+3b9,1f96:M1f26+3b9,1f97:M1f27+3b9,",
    "1f98:M1f20+3b9,1f99:M1f21+3b9,1f9a:M1f22+3b9,1f9b:M1f23+3b9,1f9c:M1f24+3b9,1f9d:M1f25+3b9,",
    "1f9e:M1f26+3b9,1f9f:M1f27+3b9,1fa0:M1f60+3b9,1fa1:M1f61+3b9,1fa2:M1f62+3b9,1fa3:M1f63+3b9,",
    "1fa4:M1f64+3b9,1fa5:M1f65+3b9,1fa6:M1f66+3b9,1fa7:M1f67+3b9,1fa8:M1f60+3b9,1fa9:M1f61+3b9,",
    "1faa:M1f62+3b9,1fab:M1f63+3b9,1fac:M1f64+3b9,1fad:M1f65+3b9,1fae:M1f66+3b9,1faf:M1f67+3b9,",
    "1fb0:V,1fb2:M1f70+3b9,1fb3:M3b1+3b9,1fb4:M3ac+3b9,1fb5:V,1fb7:M1fb6+3b9,1fb8:S-8,1fba:M1f70,",
    "1fbb:M3ac,1fbc:M3b1+3b9,1fbd:M20+313,1fbe:M3b9,1fbf:M20+313,1fc0:M20+342,1fc1:M20+308+342,",
    "1fc2:M1f74+3b9,1fc3:M3b7+3b9,1fc4:M3ae+3b9,1fc5:V,1fc7:M1fc6+3b9,1fc8:M1f72,1fc9:M3ad,",
    "1fca:M1f74,1fcb:M3ae,1fcc:M3b7+3b9,1fcd:M20+313+300,1fce:M20+313+301,1fcf:M20+313+342,",
    "1fd0:V,1fd3:M390,1fd4:V,1fd8:S-8,1fda:M1f76,1fdb:M3af,1fdc:V,1fdd:M20+314+300,",
    "1fde:M20+314+301,1fdf:M20+314+342,1fe0:V,1fe3:M3b0,1fe4:V,1fe8:S-8,1fea:M1f7a,1feb:M3cd,",
    "1fec:M1fe5,1fed:M20+308+300,1fee:M20+308+301,1fef:M60,1ff0:V,1ff2:M1f7c+3b9,1ff3:M3c9+3b9,",
    "1ff4:M3ce+3b9,1ff5:V,1ff7:M1ff6+3b9,1ff8:M1f78,1ff9:M3cc,1ffa:M1f7c,1ffb:M3ce,1ffc:M3c9+3b9,",
    "1ffd:M20+301,1ffe:M20+314,1fff:V,2000:M20,200b:I,200c:D,200e:X,2010:V,2011:M2010,2012:V,",
    "2017:M20+333,2018:V,2024:X,2027:V,2028:X,202f:M20,2030:V,2033:M2032+2032,",
    "2034:M2032+2032+2032,2035:V,2036:M2035+2035,2037:M2035+2035+2035,2038:V,203c:M21+21,203d:V,",
    "203e:M20+305,203f:V,2047:M3f+3f,2048:M3f+21,2049:M21+3f,204a:V,2057:M2032+2032+2032+2032,",
    "2058:V,205f:M20,2060:I,2065:V,2066:X,206a:I,2070:M30,2071:M69,2072:V,2074:S-8256,207a:M2b,",
    "207b:M2212,207c:M3d,207d:S-8277,207f:M6e,2080:S-8272,208a:M2b,208b:M2212,208c:M3d,",
    "208d:S-8293,208f:V,2090:M61,2091:M65,2092:M6f,2093:M78,2094:M259,2095:M68,2096:S-8235,",
    "209a:M70,209b:S-8232,209d:V,20a8:M72+73,20a9:V,2100:M61+2f+63,2101:M61+2f+73,2102:M63,",
    "2103:Mb0+63,2104:V,2105:M63+2f+6f,2106:M63+2f+75,2107:M25b,2108:V,2109:Mb0+66,210a:M67,",
    "210b:M68,210f:M127,2110:M69,2112:M6c,2114:V,2115:M6e,2116:M6e+6f,2117:V,2119:S-8361,",
    "211b:M72,211e:V,2120:M73+6d,2121:M74+65+6c,2122:M74+6d,2123:V,2124:M7a,2125:V,2126:M3c9,",
    "2127:V,2128:M7a,2129:V,212a:M6b,212b:Me5,212c:S-8394,212e:V,212f:M65,2131:M66,2132:M214e,",
    "2133:M6d,2134:M6f,2135:S-7013,2139:M69,213a:V,213b:M66+61+78,213c:M3c0,213d:M3b3,213f:M3c0,",
    "2140:M2211,2141:V,2145:M64,2147:M65,2148:S-8415,214a:V,2150:M31+2044+37,2151:M31+2044+39,",
    "2152:M31+2044+31+30,2153:M31+2044+33,2154:M32+2044+33,2155:M31+2044+35,2156:M32+2044+35,",
    "2157:M33+2044+35,2158:M34+2044+35,2159:M31+2044+36,215a:M35+2044+36,215b:M31+2044+38,",
    "215c:M33+2044+38,215d:M35+2044+38,215e:M37+2044+38,215f:M31+2044,2160:M69,2161:M69+69,",
    "2162:M69+69+69,2163:M69+76,2164:M76,2165:M76+69,2166:M76+69+69,2167:M76+69+69+69,",
    "2168:M69+78,2169:M78,216a:M78+69,216b:M78+69+69,216c:M6c,216d:S-8458,216f:M6d,2170:M69,",
    "2171:M69+69,2172:M69+69+69,2173:M69+76,2174:M76,2175:M76+69,2176:M76+69+69,",
    "2177:M76+69+69+69,2178:M69+78,2179:M78,217a:M78+69,217b:M78+69+69,217c:M6c,217d:S-8474,",
    "217f:M6d,2180:V,2183:M2184,2184:V,2189:M30+2044+33,218a:V,222c:M222b+222b,",
    "222d:M222b+222b+222b,222e:V,222f:M222e+222e,2230:M222e+222e+222e,2231:V,2329:S3295,232b:V,",
    "2460:S-9263,2469:M31+30,246a:M31+31,246b:M31+32,246c:M31+33,246d:M31+34,246e:M31+35,",
    "246f:M31+36,2470:M31+37,2471:M31+38,2472:M31+39,2473:M32+30,2474:M28+31+29,2475:M28+32+29,",
    "2476:M28+33+29,2477:M28+34+29,2478:M28+35+29,2479:M28+36+29,247a:M28+37+29,247b:M28+38+29,",
    "247c:M28+39+29,247d:M28+31+30+29,247e:M28+31+31+29,247f:M28+31+32+29,2480:M28+31+33+29,",
    "2481:M28+31+34+29,2482:M28+31+35+29,2483:M28+31+36+29,2484:M28+31+37+29,2485:M28+31+38+29,",
    "2486:M28+31+39+29,2487:M28+32+30+29,2488:X,249c:M28+61+29,249d:M28+62+29,249e:M28+63+29,",
    "249f:M28+64+29,24a0:M28+65+29,24a1:M28+66+29,24a2:M28+67+29,24a3:M28+68+29,24a4:M28+69+29,",
    "24a5:M28+6a+29,24a6:M28+6b+29,24a7:M28+6c+29,24a8:M28+6d+29,24a9:M28+6e+29,24aa:M28+6f+29,",
    "24ab:M28+70+29,24ac:M28+71+29,24ad:M28+72+29,24ae:M28+73+29,24af:M28+74+29,24b0:M28+75+29,",
    "24b1:M28+76+29,24b2:M28+77+29,24b3:M28+78+29,24b4:M28+79+29,24b5:M28+7a+29,24b6:S-9301,",
    "24d0:S-9327,24ea:M30,24eb:V,2a0c:M222b+222b+222b+222b,2a0d:V,2a74:M3a+3a+3d,2a75:M3d+3d,",
    "2a76:M3d+3d+3d,2a77:V,2adc:M2add+338,2add:V,2c00:S48,2c30:V,2c60:M2c61,2c61:V,2c62:M26b,",
    "2c63:M1d7d,2c64:M27d,2c65:V,2c67:P,2c6c:V,2c6d:M251,2c6e:M271,2c6f:M250,2c70:M252,2c71:V,",
    "2c72:M2c73,2c73:V,2c75:M2c76,2c76:V,2c7c:M6a,2c7d:M76,2c7e:S-10815,2c80:P,2ce3:V,2ceb:P,",
    "2cee:V,2cf2:M2cf3,2cf3:V,2d6f:M2d61,2d70:V,2e9f:M6bcd,2ea0:V,2ef3:M9f9f,2ef4:V,2f00:M4e00,",
    "2f01:M4e28,2f02:M4e36,2f03:M4e3f,2f04:M4e59,2f05:M4e85,2f06:M4e8c,2f07:M4ea0,2f08:M4eba,",
    "2f09:M513f,2f0a:M5165,2f0b:M516b,2f0c:M5182,2f0d:M5196,2f0e:M51ab,2f0f:M51e0,2f10:M51f5,",
    "2f11:M5200,2f12:M529b,2f13:M52f9,2f14:M5315,2f15:M531a,2f16:M5338,2f17:M5341,2f18:M535c,",
    "2f19:M5369,2f1a:M5382,2f1b:M53b6,2f1c:M53c8,2f1d:M53e3,2f1e:M56d7,2f1f:M571f,2f20:M58eb,",
    "2f21:M5902,2f22:M590a,2f23:M5915,2f24:M5927,2f25:M5973,2f26:M5b50,2f27:M5b80,2f28:M5bf8,",
    "2f29:M5c0f,2f2a:M5c22,2f2b:M5c38,2f2c:M5c6e,2f2d:M5c71,2f2e:M5ddb,2f2f:M5de5,2f30:M5df1,",
    "2f31:M5dfe,2f32:M5e72,2f33:M5e7a,2f34:M5e7f,2f35:M5ef4,2f36:M5efe,2f37:M5f0b,2f38:M5f13,",
    "2f39:M5f50,2f3a:M5f61,2f3b:M5f73,2f3c:M5fc3,2f3d:M6208,2f3e:M6236,2f3f:M624b,2f40:M652f,",
    "2f41:M6534,2f42:M6587,2f43:M6597,2f44:M65a4,2f45:M65b9,2f46:M65e0,2f47:M65e5,2f48:M66f0,",
    "2f49:M6708,2f4a:M6728,2f4b:M6b20,2f4c:M6b62,2f4d:M6b79,2f4e:M6bb3,2f4f:M6bcb,2f50:M6bd4,",
    "2f51:M6bdb,2f52:M6c0f,2f53:M6c14,2f54:M6c34,2f55:M706b,2f56:M722a,2f57:M7236,2f58:M723b,",
    "2f59:M723f,2f5a:M7247,2f5b:M7259,2f5c:M725b,2f5d:M72ac,2f5e:M7384,2f5f:M7389,2f60:M74dc,",
    "2f61:M74e6,2f62:M7518,2f63:M751f,2f64:M7528,2f65:M7530,2f66:M758b,2f67:M7592,2f68:M7676,",
    "2f69:M767d,2f6a:M76ae,2f6b:M76bf,2f6c:M76ee,2f6d:M77db,2f6e:M77e2,2f6f:M77f3,2f70:M793a,",
    "2f71:M79b8,2f72:M79be,2f73:M7a74,2f74:M7acb,2f75:M7af9,2f76:M7c73,2f77:M7cf8,2f78:M7f36,",
    "2f79:M7f51,2f7a:M7f8a,2f7b:M7fbd,2f7c:M8001,2f7d:M800c,2f7e:M8012,2f7f:M8033,2f80:M807f,",
    "2f81:M8089,2f82:M81e3,2f83:M81ea,2f84:M81f3,2f85:M81fc,2f86:M820c,2f87:M821b,2f88:M821f,",
    "2f89:M826e,2f8a:M8272,2f8b:M8278,2f8c:M864d,2f8d:M866b,2f8e:M8840,2f8f:M884c,2f90:M8863,",
    "2f91:M897e,2f92:M898b,2f93:M89d2,2f94:M8a00,2f95:M8c37,2f96:M8c46,2f97:M8c55,2f98:M8c78,",
    "2f99:M8c9d,2f9a:M8d64,2f9b:M8d70,2f9c:M8db3,2f9d:M8eab,2f9e:M8eca,2f9f:M8f9b,2fa0:M8fb0,",
    "2fa1:M8fb5,2fa2:M9091,2fa3:M9149,2fa4:M91c6,2fa5:M91cc,2fa6:M91d1,2fa7:M9577,2fa8:M9580,",
    "2fa9:M961c,2faa:M96b6,2fab:M96b9,2fac:M96e8,2fad:M9751,2fae:M975e,2faf:M9762,2fb0:M9769,",
    "2fb1:M97cb,2fb2:M97ed,2fb3:M97f3,2fb4:M9801,2fb5:M98a8,2fb6:M98db,2fb7:M98df,2fb8:M9996,",
    "2fb9:M9999,2fba:M99ac,2fbb:M9aa8,2fbc:M9ad8,2fbd:M9adf,2fbe:M9b25,2fbf:M9b2f,2fc0:M9b32,",
    "2fc1:M9b3c,2fc2:M9b5a,2fc3:M9ce5,2fc4:M9e75,2fc5:M9e7f,2fc6:M9ea5,2fc7:M9ebb,2fc8:M9ec3,",
    "2fc9:M9ecd,2fca:M9ed1,2fcb:M9ef9,2fcc:M9efd,2fcd:M9f0e,2fce:M9f13,2fcf:M9f20,2fd0:M9f3b,",
    "2fd1:M9f4a,2fd2:M9f52,2fd3:M9f8d,2fd4:M9f9c,2fd5:M9fa0,2fd6:V,2ff0:X,3000:M20,3001:V,",
    "3002:M2e,3003:V,3036:M3012,3037:V,3038:M5341,3039:S8971,303b:V,309b:M20+3099,309c:M20+309a,",
    "309d:V,309f:M3088+308a,30a0:V,30ff:M30b3+30c8,3100:V,3131:S-8241,3133:M11aa,3134:M1102,",
    "3135:S-8073,3137:S-8244,313a:S-8074,3140:M111a,3141:S-8251,3144:M1121,3145:S-8252,",
    "314f:S-8174,3164:I,3165:S-8273,3167:S-8096,3169:M11cc,316a:M11ce,316b:M11d3,316c:M11d7,",
    "316d:M11d9,316e:M111c,316f:M11dd,3170:M11df,3171:S-8276,3173:M1120,3174:S-8274,3176:M1127,",
    "3177:M1129,3178:S-8269,317d:M1132,317e:M1136,317f:M1140,3180:M1147,3181:M114c,3182:S-8081,",
    "3184:S-8237,3187:S-8195,3189:M1188,318a:S-8185,318c:M1194,318d:M119e,318e:M11a1,318f:V,",
    "3192:M4e00,3193:M4e8c,3194:M4e09,3195:M56db,3196:M4e0a,3197:M4e2d,3198:M4e0b,3199:M7532,",
    "319a:M4e59,319b:M4e19,319c:M4e01,319d:M5929,319e:M5730,319f:M4eba,31a0:V,31ef:X,31f0:V,",
    "3200:M28+1100+29,3201:M28+1102+29,3202:M28+1103+29,3203:M28+1105+29,3204:M28+1106+29,",
    "3205:M28+1107+29,3206:M28+1109+29,3207:M28+110b+29,3208:M28+110c+29,3209:M28+110e+29,",
    "320a:M28+110f+29,320b:M28+1110+29,320c:M28+1111+29,320d:M28+1112+29,320e:M28+ac00+29,",
    "320f:M28+b098+29,3210:M28+b2e4+29,3211:M28+b77c+29,3212:M28+b9c8+29,3213:M28+bc14+29,",
    "3214:M28+c0ac+29,3215:M28+c544+29,3216:M28+c790+29,3217:M28+cc28+29,3218:M28+ce74+29,",
    "3219:M28+d0c0+29,321a:M28+d30c+29,321b:M28+d558+29,321c:M28+c8fc+29,321d:M28+c624+c804+29,",
    "321e:M28+c624+d6c4+29,321f:V,3220:M28+4e00+29,3221:M28+4e8c+29,3222:M28+4e09+29,",
    "3223:M28+56db+29,3224:M28+4e94+29,3225:M28+516d+29,3226:M28+4e03+29,3227:M28+516b+29,",
    "3228:M28+4e5d+29,3229:M28+5341+29,322a:M28+6708+29,322b:M28+706b+29,322c:M28+6c34+29,",
    "322d:M28+6728+29,322e:M28+91d1+29,322f:M28+571f+29,3230:M28+65e5+29,3231:M28+682a+29,",
    "3232:M28+6709+29,3233:M28+793e+29,3234:M28+540d+29,3235:M28+7279+29,3236:M28+8ca1+29,",
    "3237:M28+795d+29,3238:M28+52b4+29,3239:M28+4ee3+29,323a:M28+547c+29,323b:M28+5b66+29,",
    "323c:M28+76e3+29,323d:M28+4f01+29,323e:M28+8cc7+29,323f:M28+5354+29,3240:M28+796d+29,",
    "3241:M28+4f11+29,3242:M28+81ea+29,3243:M28+81f3+29,3244:M554f,3245:M5e7c,3246:M6587,",
    "3247:M7b8f,3248:V,3250:M70+74+65,3251:M32+31,3252:M32+32,3253:M32+33,3254:M32+34,",
    "3255:M32+35,3256:M32+36,3257:M32+37,3258:M32+38,3259:M32+39,325a:M33+30,325b:M33+31,",
    "325c:M33+32,325d:M33+33,325e:M33+34,325f:M33+35,3260:M1100,3261:S-8543,3263:S-8542,",
    "3266:M1109,3267:S-8540,3269:S-8539,326e:Mac00,326f:Mb098,3270:Mb2e4,3271:Mb77c,3272:Mb9c8,",
    "3273:Mbc14,3274:Mc0ac,3275:Mc544,3276:Mc790,3277:Mcc28,3278:Mce74,3279:Md0c0,327a:Md30c,",
    "327b:Md558,327c:Mcc38+ace0,327d:Mc8fc+c758,327e:Mc6b0,327f:V,3280:M4e00,3281:M4e8c,",
    "3282:M4e09,3283:M56db,3284:M4e94,3285:M516d,3286:M4e03,3287:M516b,3288:M4e5d,3289:M5341,",
    "328a:M6708,328b:M706b,328c:M6c34,328d:M6728,328e:M91d1,328f:M571f,3290:M65e5,3291:M682a,",
    "3292:M6709,3293:M793e,3294:M540d,3295:M7279,3296:M8ca1,3297:M795d,3298:M52b4,3299:M79d8,",
    "329a:M7537,329b:M5973,329c:M9069,329d:M512a,329e:M5370,329f:M6ce8,32a0:M9805,32a1:M4f11,",
    "32a2:M5199,32a3:M6b63,32a4:M4e0a,32a5:M4e2d,32a6:M4e0b,32a7:M5de6,32a8:M53f3,32a9:M533b,",
    "32aa:M5b97,32ab:M5b66,32ac:M76e3,32ad:M4f01,32ae:M8cc7,32af:M5354,32b0:M591c,32b1:M33+36,",
    "32b2:M33+37,32b3:M33+38,32b4:M33+39,32b5:M34+30,32b6:M34+31,32b7:M34+32,32b8:M34+33,",
    "32b9:M34+34,32ba:M34+35,32bb:M34+36,32bc:M34+37,32bd:M34+38,32be:M34+39,32bf:M35+30,",
    "32c0:M31+6708,32c1:M32+6708,32c2:M33+6708,32c3:M34+6708,32c4:M35+6708,32c5:M36+6708,",
    "32c6:M37+6708,32c7:M38+6708,32c8:M39+6708,32c9:M31+30+6708,32ca:M31+31+6708,",
    "32cb:M31+32+6708,32cc:M68+67,32cd:M65+72+67,32ce:M65+76,32cf:M6c+74+64,32d0:M30a2,",
    "32d1:M30a4,32d2:M30a6,32d3:M30a8,32d4:S-554,32d6:M30ad,32d7:M30af,32d8:M30b1,32d9:M30b3,",
    "32da:M30b5,32db:M30b7,32dc:M30b9,32dd:M30bb,32de:M30bd,32df:M30bf,32e0:M30c1,32e1:M30c4,",
    "32e2:M30c6,32e3:M30c8,32e4:S-538,32ea:M30d2,32eb:M30d5,32ec:M30d8,32ed:M30db,32ee:S-528,",
    "32f3:M30e4,32f4:M30e6,32f5:S-525,32fb:S-524,32ff:M4ee4+548c,3300:M30a2+30d1+30fc+30c8,",
    "3301:M30a2+30eb+30d5+30a1,3302:M30a2+30f3+30da+30a2,3303:M30a2+30fc+30eb,",
    "3304:M30a4+30cb+30f3+30b0,3305:M30a4+30f3+30c1,3306:M30a6+30a9+30f3,",
    "3307:M30a8+30b9+30af+30fc+30c9,3308:M30a8+30fc+30ab+30fc,3309:M30aa+30f3+30b9,",
    "330a:M30aa+30fc+30e0,330b:M30ab+30a4+30ea,330c:M30ab+30e9+30c3+30c8,",
    "330d:M30ab+30ed+30ea+30fc,330e:M30ac+30ed+30f3,330f:M30ac+30f3+30de,3310:M30ae+30ac,",
    "3311:M30ae+30cb+30fc,3312:M30ad+30e5+30ea+30fc,3313:M30ae+30eb+30c0+30fc,3314:M30ad+30ed,",
    "3315:M30ad+30ed+30b0+30e9+30e0,3316:M30ad+30ed+30e1+30fc+30c8+30eb,",
    "3317:M30ad+30ed+30ef+30c3+30c8,3318:M30b0+30e9+30e0,3319:M30b0+30e9+30e0+30c8+30f3,",
    "331a:M30af+30eb+30bc+30a4+30ed,331b:M30af+30ed+30fc+30cd,331c:M30b1+30fc+30b9,",
    "331d:M30b3+30eb+30ca,331e:M30b3+30fc+30dd,331f:M30b5+30a4+30af+30eb,",
    "3320:M30b5+30f3+30c1+30fc+30e0,3321:M30b7+30ea+30f3+30b0,3322:M30bb+30f3+30c1,",
    "3323:M30bb+30f3+30c8,3324:M30c0+30fc+30b9,3325:M30c7+30b7,3326:M30c9+30eb,3327:M30c8+30f3,",
    "3328:M30ca+30ce,3329:M30ce+30c3+30c8,332a:M30cf+30a4+30c4,332b:M30d1+30fc+30bb+30f3+30c8,",
    "332c:M30d1+30fc+30c4,332d:M30d0+30fc+30ec+30eb,332e:M30d4+30a2+30b9+30c8+30eb,",
    "332f:M30d4+30af+30eb,3330:M30d4+30b3,3331:M30d3+30eb,3332:M30d5+30a1+30e9+30c3+30c9,",
    "3333:M30d5+30a3+30fc+30c8,3334:M30d6+30c3+30b7+30a7+30eb,3335:M30d5+30e9+30f3,",
    "3336:M30d8+30af+30bf+30fc+30eb,3337:M30da+30bd,3338:M30da+30cb+30d2,3339:M30d8+30eb+30c4,",
    "333a:M30da+30f3+30b9,333b:M30da+30fc+30b8,333c:M30d9+30fc+30bf,333d:M30dd+30a4+30f3+30c8,",
    "333e:M30dc+30eb+30c8,333f:M30db+30f3,3340:M30dd+30f3+30c9,3341:M30db+30fc+30eb,",
    "3342:M30db+30fc+30f3,3343:M30de+30a4+30af+30ed,3344:M30de+30a4+30eb,3345:M30de+30c3+30cf,",
    "3346:M30de+30eb+30af,3347:M30de+30f3+30b7+30e7+30f3,3348:M30df+30af+30ed+30f3,",
    "3349:M30df+30ea,334a:M30df+30ea+30d0+30fc+30eb,334b:M30e1+30ac,334c:M30e1+30ac+30c8+30f3,",
    "334d:M30e1+30fc+30c8+30eb,334e:M30e4+30fc+30c9,334f:M30e4+30fc+30eb,3350:M30e6+30a2+30f3,",
    "3351:M30ea+30c3+30c8+30eb,3352:M30ea+30e9,3353:M30eb+30d4+30fc,3354:M30eb+30fc+30d6+30eb,",
    "3355:M30ec+30e0,3356:M30ec+30f3+30c8+30b2+30f3,3357:M30ef+30c3+30c8,3358:M30+70b9,",
    "3359:M31+70b9,335a:M32+70b9,335b:M33+70b9,335c:M34+70b9,335d:M35+70b9,335e:M36+70b9,",
    "335f:M37+70b9,3360:M38+70b9,3361:M39+70b9,3362:M31+30+70b9,3363:M31+31+70b9,",
    "3364:M31+32+70b9,3365:M31+33+70b9,3366:M31+34+70b9,3367:M31+35+70b9,3368:M31+36+70b9,",
    "3369:M31+37+70b9,336a:M31+38+70b9,336b:M31+39+70b9,336c:M32+30+70b9,336d:M32+31+70b9,",
    "336e:M32+32+70b9,336f:M32+33+70b9,3370:M32+34+70b9,3371:M68+70+61,3372:M64+61,3373:M61+75,",
    "3374:M62+61+72,3375:M6f+76,3376:M70+63,3377:M64+6d,3378:M64+6d+32,3379:M64+6d+33,",
    "337a:M69+75,337b:M5e73+6210,337c:M662d+548c,337d:M5927+6b63,337e:M660e+6cbb,",
    "337f:M682a+5f0f+4f1a+793e,3380:M70+61,3381:M6e+61,3382:M3bc+61,3383:M6d+61,3384:M6b+61,",
    "3385:M6b+62,3386:M6d+62,3387:M67+62,3388:M63+61+6c,3389:M6b+63+61+6c,338a:M70+66,",
    "338b:M6e+66,338c:M3bc+66,338d:M3bc+67,338e:M6d+67,338f:M6b+67,3390:M68+7a,3391:M6b+68+7a,",
    "3392:M6d+68+7a,3393:M67+68+7a,3394:M74+68+7a,3395:M3bc+6c,3396:M6d+6c,3397:M64+6c,",
    "3398:M6b+6c,3399:M66+6d,339a:M6e+6d,339b:M3bc+6d,339c:M6d+6d,339d:M63+6d,339e:M6b+6d,",
    "339f:M6d+6d+32,33a0:M63+6d+32,33a1:M6d+32,33a2:M6b+6d+32,33a3:M6d+6d+33,33a4:M63+6d+33,",
    "33a5:M6d+33,33a6:M6b+6d+33,33a7:M6d+2215+73,33a8:M6d+2215+73+32,33a9:M70+61,33aa:M6b+70+61,",
    "33ab:M6d+70+61,33ac:M67+70+61,33ad:M72+61+64,33ae:M72+61+64+2215+73,",
    "33af:M72+61+64+2215+73+32,33b0:M70+73,33b1:M6e+73,33b2:M3bc+73,33b3:M6d+73,33b4:M70+76,",
    "33b5:M6e+76,33b6:M3bc+76,33b7:M6d+76,33b8:M6b+76,33b9:M6d+76,33ba:M70+77,33bb:M6e+77,",
    "33bc:M3bc+77,33bd:M6d+77,33be:M6b+77,33bf:M6d+77,33c0:M6b+3c9,33c1:M6d+3c9,33c2:X,",
    "33c3:M62+71,33c4:M63+63,33c5:M63+64,33c6:M63+2215+6b+67,33c7:X,33c8:M64+62,33c9:M67+79,",
    "33ca:M68+61,33cb:M68+70,33cc:M69+6e,33cd:M6b+6b,33ce:M6b+6d,33cf:M6b+74,33d0:M6c+6d,",
    "33d1:M6c+6e,33d2:M6c+6f+67,33d3:M6c+78,33d4:M6d+62,33d5:M6d+69+6c,33d6:M6d+6f+6c,",
    "33d7:M70+68,33d8:X,33d9:M70+70+6d,33da:M70+72,33db:M73+72,33dc:M73+76,33dd:M77+62,",
    "33de:M76+2215+6d,33df:M61+2215+6d,33e0:M31+65e5,33e1:M32+65e5,33e2:M33+65e5,33e3:M34+65e5,",
    "33e4:M35+65e5,33e5:M36+65e5,33e6:M37+65e5,33e7:M38+65e5,33e8:M39+65e5,33e9:M31+30+65e5,",
    "33ea:M31+31+65e5,33eb:M31+32+65e5,33ec:M31+33+65e5,33ed:M31+34+65e5,33ee:M31+35+65e5,",
    "33ef:M31+36+65e5,33f0:M31+37+65e5,33f1:M31+38+65e5,33f2:M31+39+65e5,33f3:M32+30+65e5,",
    "33f4:M32+31+65e5,33f5:M32+32+65e5,33f6:M32+33+65e5,33f7:M32+34+65e5,33f8:M32+35+65e5,",
    "33f9:M32+36+65e5,33fa:M32+37+65e5,33fb:M32+38+65e5,33fc:M32+39+65e5,33fd:M33+30+65e5,",
    "33fe:M33+31+65e5,33ff:M67+61+6c,3400:V,a640:P,a66d:V,a680:P,a69b:V,a69c:M44a,a69d:M44c,",
    "a69e:V,a722:P,a72f:V,a732:P,a76f:V,a770:Ma76f,a771:V,a779:P,a77c:V,a77d:M1d79,a77e:P,a787:V,",
    "a78b:Ma78c,a78c:V,a78d:M265,a78e:V,a790:P,a793:V,a796:P,a7a9:V,a7aa:M266,a7ab:M25c,",
    "a7ac:M261,a7ad:M26c,a7ae:M26a,a7af:V,a7b0:M29e,a7b1:M287,a7b2:M29d,a7b3:Mab53,a7b4:P,a7c3:V,",
    "a7c4:Ma794,a7c5:M282,a7c6:M1d8e,a7c7:P,a7ca:V,a7cb:M264,a7cc:P,a7db:V,a7dc:M19b,a7dd:V,",
    "a7f1:M73,a7f2:M63,a7f3:M66,a7f4:M71,a7f5:Ma7f6,a7f6:V,a7f8:M127,a7f9:M153,a7fa:V,ab5c:Ma727,",
    "ab5d:Mab37,ab5e:M26b,ab5f:Mab52,ab60:V,ab69:M28d,ab6a:V,ab70:S-38864,abc0:V,d800:X,",
    "f900:M8c48,f901:M66f4,f902:M8eca,f903:M8cc8,f904:M6ed1,f905:M4e32,f906:M53e5,f907:M9f9c,",
    "f909:M5951,f90a:M91d1,f90b:M5587,f90c:M5948,f90d:M61f6,f90e:M7669,f90f:M7f85,f910:M863f,",
    "f911:M87ba,f912:M88f8,f913:M908f,f914:M6a02,f915:M6d1b,f916:M70d9,f917:M73de,f918:M843d,",
    "f919:M916a,f91a:M99f1,f91b:M4e82,f91c:M5375,f91d:M6b04,f91e:M721b,f91f:M862d,f920:M9e1e,",
    "f921:M5d50,f922:M6feb,f923:M85cd,f924:M8964,f925:M62c9,f926:M81d8,f927:M881f,f928:M5eca,",
    "f929:M6717,f92a:M6d6a,f92b:M72fc,f92c:M90ce,f92d:M4f86,f92e:M51b7,f92f:M52de,f930:M64c4,",
    "f931:M6ad3,f932:M7210,f933:M76e7,f934:M8001,f935:M8606,f936:M865c,f937:M8def,f938:M9732,",
    "f939:M9b6f,f93a:M9dfa,f93b:M788c,f93c:M797f,f93d:M7da0,f93e:M83c9,f93f:M9304,f940:M9e7f,",
    "f941:M8ad6,f942:M58df,f943:M5f04,f944:M7c60,f945:M807e,f946:M7262,f947:M78ca,f948:M8cc2,",
    "f949:M96f7,f94a:M58d8,f94b:M5c62,f94c:M6a13,f94d:M6dda,f94e:M6f0f,f94f:M7d2f,f950:M7e37,",
    "f951:M964b,f952:M52d2,f953:M808b,f954:M51dc,f955:M51cc,f956:M7a1c,f957:M7dbe,f958:M83f1,",
    "f959:M9675,f95a:M8b80,f95b:M62cf,f95c:M6a02,f95d:M8afe,f95e:M4e39,f95f:M5be7,f960:M6012,",
    "f961:M7387,f962:M7570,f963:M5317,f964:M78fb,f965:M4fbf,f966:M5fa9,f967:M4e0d,f968:M6ccc,",
    "f969:M6578,f96a:M7d22,f96b:M53c3,f96c:M585e,f96d:M7701,f96e:M8449,f96f:M8aaa,f970:M6bba,",
    "f971:M8fb0,f972:M6c88,f973:M62fe,f974:M82e5,f975:M63a0,f976:M7565,f977:M4eae,f978:M5169,",
    "f979:M51c9,f97a:M6881,f97b:M7ce7,f97c:M826f,f97d:M8ad2,f97e:M91cf,f97f:M52f5,f980:M5442,",
    "f981:M5973,f982:M5eec,f983:M65c5,f984:M6ffe,f985:M792a,f986:M95ad,f987:M9a6a,f988:M9e97,",
    "f989:M9ece,f98a:M529b,f98b:M66c6,f98c:M6b77,f98d:M8f62,f98e:M5e74,f98f:M6190,f990:M6200,",
    "f991:M649a,f992:M6f23,f993:M7149,f994:M7489,f995:M79ca,f996:M7df4,f997:M806f,f998:M8f26,",
    "f999:M84ee,f99a:M9023,f99b:M934a,f99c:M5217,f99d:M52a3,f99e:M54bd,f99f:M70c8,f9a0:M88c2,",
    "f9a1:M8aaa,f9a2:M5ec9,f9a3:M5ff5,f9a4:M637b,f9a5:M6bae,f9a6:M7c3e,f9a7:M7375,f9a8:M4ee4,",
    "f9a9:M56f9,f9aa:M5be7,f9ab:M5dba,f9ac:M601c,f9ad:M73b2,f9ae:M7469,f9af:M7f9a,f9b0:M8046,",
    "f9b1:M9234,f9b2:M96f6,f9b3:M9748,f9b4:M9818,f9b5:M4f8b,f9b6:M79ae,f9b7:M91b4,f9b8:M96b8,",
    "f9b9:M60e1,f9ba:M4e86,f9bb:M50da,f9bc:M5bee,f9bd:M5c3f,f9be:M6599,f9bf:M6a02,f9c0:M71ce,",
    "f9c1:M7642,f9c2:M84fc,f9c3:M907c,f9c4:M9f8d,f9c5:M6688,f9c6:M962e,f9c7:M5289,f9c8:M677b,",
    "f9c9:M67f3,f9ca:M6d41,f9cb:M6e9c,f9cc:M7409,f9cd:M7559,f9ce:M786b,f9cf:M7d10,f9d0:M985e,",
    "f9d1:M516d,f9d2:M622e,f9d3:M9678,f9d4:M502b,f9d5:M5d19,f9d6:M6dea,f9d7:M8f2a,f9d8:M5f8b,",
    "f9d9:M6144,f9da:M6817,f9db:M7387,f9dc:M9686,f9dd:M5229,f9de:M540f,f9df:M5c65,f9e0:M6613,",
    "f9e1:M674e,f9e2:M68a8,f9e3:M6ce5,f9e4:M7406,f9e5:M75e2,f9e6:M7f79,f9e7:M88cf,f9e8:M88e1,",
    "f9e9:M91cc,f9ea:M96e2,f9eb:M533f,f9ec:M6eba,f9ed:M541d,f9ee:M71d0,f9ef:M7498,f9f0:M85fa,",
    "f9f1:M96a3,f9f2:M9c57,f9f3:M9e9f,f9f4:M6797,f9f5:M6dcb,f9f6:M81e8,f9f7:M7acb,f9f8:M7b20,",
    "f9f9:M7c92,f9fa:M72c0,f9fb:M7099,f9fc:M8b58,f9fd:M4ec0,f9fe:M8336,f9ff:M523a,fa00:M5207,",
    "fa01:M5ea6,fa02:M62d3,fa03:M7cd6,fa04:M5b85,fa05:M6d1e,fa06:M66b4,fa07:M8f3b,fa08:M884c,",
    "fa09:M964d,fa0a:M898b,fa0b:M5ed3,fa0c:M5140,fa0d:M55c0,fa0e:V,fa10:M585a,fa11:V,fa12:M6674,",
    "fa13:V,fa15:M51de,fa16:M732a,fa17:M76ca,fa18:M793c,fa19:M795e,fa1a:M7965,fa1b:M798f,",
    "fa1c:M9756,fa1d:M7cbe,fa1e:M7fbd,fa1f:V,fa20:M8612,fa21:V,fa22:M8af8,fa23:V,fa25:M9038,",
    "fa26:M90fd,fa27:V,fa2a:M98ef,fa2b:M98fc,fa2c:M9928,fa2d:M9db4,fa2e:M90de,fa2f:M96b7,",
    "fa30:M4fae,fa31:M50e7,fa32:M514d,fa33:M52c9,fa34:M52e4,fa35:M5351,fa36:M559d,fa37:M5606,",
    "fa38:M5668,fa39:M5840,fa3a:M58a8,fa3b:M5c64,fa3c:M5c6e,fa3d:M6094,fa3e:M6168,fa3f:M618e,",
    "fa40:M61f2,fa41:M654f,fa42:M65e2,fa43:M6691,fa44:M6885,fa45:M6d77,fa46:M6e1a,fa47:M6f22,",
    "fa48:M716e,fa49:M722b,fa4a:M7422,fa4b:M7891,fa4c:M793e,fa4d:M7949,fa4e:M7948,fa4f:M7950,",
    "fa50:M7956,fa51:M795d,fa52:S-32965,fa54:M7a40,fa55:M7a81,fa56:M7bc0,fa57:M7df4,fa58:M7e09,",
    "fa59:M7e41,fa5a:M7f72,fa5b:M8005,fa5c:M81ed,fa5d:M8279,fa5f:M8457,fa60:M8910,fa61:M8996,",
    "fa62:M8b01,fa63:M8b39,fa64:M8cd3,fa65:M8d08,fa66:M8fb6,fa67:M9038,fa68:M96e3,fa69:M97ff,",
    "fa6a:M983b,fa6b:M6075,fa6c:M242ee,fa6d:M8218,fa6e:V,fa70:M4e26,fa71:M51b5,fa72:M5168,",
    "fa73:M4f80,fa74:M5145,fa75:M5180,fa76:M52c7,fa77:M52fa,fa78:M559d,fa79:M5555,fa7a:M5599,",
    "fa7b:M55e2,fa7c:M585a,fa7d:M58b3,fa7e:M5944,fa7f:M5954,fa80:M5a62,fa81:M5b28,fa82:M5ed2,",
    "fa83:M5ed9,fa84:M5f69,fa85:M5fad,fa86:M60d8,fa87:M614e,fa88:M6108,fa89:M618e,fa8a:M6160,",
    "fa8b:M61f2,fa8c:M6234,fa8d:M63c4,fa8e:M641c,fa8f:M6452,fa90:M6556,fa91:M6674,fa92:M6717,",
    "fa93:M671b,fa94:M6756,fa95:M6b79,fa96:M6bba,fa97:M6d41,fa98:M6edb,fa99:M6ecb,fa9a:M6f22,",
    "fa9b:M701e,fa9c:M716e,fa9d:M77a7,fa9e:M7235,fa9f:M72af,faa0:M732a,faa1:M7471,faa2:M7506,",
    "faa3:M753b,faa4:M761d,faa5:M761f,faa6:M76ca,faa7:M76db,faa8:M76f4,faa9:M774a,faaa:M7740,",
    "faab:M78cc,faac:M7ab1,faad:M7bc0,faae:M7c7b,faaf:M7d5b,fab0:M7df4,fab1:M7f3e,fab2:M8005,",
    "fab3:M8352,fab4:M83ef,fab5:M8779,fab6:M8941,fab7:M8986,fab8:M8996,fab9:M8abf,faba:M8af8,",
    "fabb:M8acb,fabc:M8b01,fabd:M8afe,fabe:M8aed,fabf:M8b39,fac0:M8b8a,fac1:M8d08,fac2:M8f38,",
    "fac3:M9072,fac4:M9199,fac5:M9276,fac6:M967c,fac7:M96e3,fac8:M9756,fac9:M97db,faca:M97ff,",
    "facb:M980b,facc:M983b,facd:M9b12,face:M9f9c,facf:M2284a,fad0:M22844,fad1:M233d5,fad2:M3b9d,",
    "fad3:M4018,fad4:M4039,fad5:M25249,fad6:M25cd0,fad7:M27ed3,fad8:M9f43,fad9:M9f8e,fada:V,",
    "fb00:M66+66,fb01:M66+69,fb02:M66+6c,fb03:M66+66+69,fb04:M66+66+6c,fb05:M73+74,fb07:V,",
    "fb13:M574+576,fb14:M574+565,fb15:M574+56b,fb16:M57e+576,fb17:M574+56d,fb18:V,fb1d:M5d9+5b4,",
    "fb1e:V,fb1f:M5f2+5b7,fb20:M5e2,fb21:M5d0,fb22:S-62799,fb24:S-62793,fb27:M5e8,fb28:M5ea,",
    "fb29:M2b,fb2a:M5e9+5c1,fb2b:M5e9+5c2,fb2c:M5e9+5bc+5c1,fb2d:M5e9+5bc+5c2,fb2e:M5d0+5b7,",
    "fb2f:M5d0+5b8,fb30:M5d0+5bc,fb31:M5d1+5bc,fb32:M5d2+5bc,fb33:M5d3+5bc,fb34:M5d4+5bc,",
    "fb35:M5d5+5bc,fb36:M5d6+5bc,fb37:V,fb38:M5d8+5bc,fb39:M5d9+5bc,fb3a:M5da+5bc,fb3b:M5db+5bc,",
    "fb3c:M5dc+5bc,fb3d:V,fb3e:M5de+5bc,fb3f:V,fb40:M5e0+5bc,fb41:M5e1+5bc,fb42:V,fb43:M5e3+5bc,",
    "fb44:M5e4+5bc,fb45:V,fb46:M5e6+5bc,fb47:M5e7+5bc,fb48:M5e8+5bc,fb49:M5e9+5bc,fb4a:M5ea+5bc,",
    "fb4b:M5d5+5b9,fb4c:M5d1+5bf,fb4d:M5db+5bf,fb4e:M5e4+5bf,fb4f:M5d0+5dc,fb50:M671,fb52:M67b,",
    "fb56:M67e,fb5a:M680,fb5e:M67a,fb62:M67f,fb66:M679,fb6a:M6a4,fb6e:M6a6,fb72:M684,fb76:M683,",
    "fb7a:M686,fb7e:M687,fb82:M68d,fb84:M68c,fb86:M68e,fb88:M688,fb8a:M698,fb8c:M691,fb8e:M6a9,",
    "fb92:M6af,fb96:M6b3,fb9a:M6b1,fb9e:M6ba,fba0:M6bb,fba4:M6c0,fba6:M6c1,fbaa:M6be,fbae:M6d2,",
    "fbb0:M6d3,fbb2:V,fbd3:M6ad,fbd7:M6c7,fbd9:M6c6,fbdb:M6c8,fbdd:M6c7+674,fbde:M6cb,fbe0:M6c5,",
    "fbe2:M6c9,fbe4:M6d0,fbe8:M649,fbea:M626+627,fbec:M626+6d5,fbee:M626+648,fbf0:M626+6c7,",
    "fbf2:M626+6c6,fbf4:M626+6c8,fbf6:M626+6d0,fbf9:M626+649,fbfc:M6cc,fc00:M626+62c,",
    "fc01:M626+62d,fc02:M626+645,fc03:M626+649,fc04:M626+64a,fc05:M628+62c,fc06:M628+62d,",
    "fc07:M628+62e,fc08:M628+645,fc09:M628+649,fc0a:M628+64a,fc0b:M62a+62c,fc0c:M62a+62d,",
    "fc0d:M62a+62e,fc0e:M62a+645,fc0f:M62a+649,fc10:M62a+64a,fc11:M62b+62c,fc12:M62b+645,",
    "fc13:M62b+649,fc14:M62b+64a,fc15:M62c+62d,fc16:M62c+645,fc17:M62d+62c,fc18:M62d+645,",
    "fc19:M62e+62c,fc1a:M62e+62d,fc1b:M62e+645,fc1c:M633+62c,fc1d:M633+62d,fc1e:M633+62e,",
    "fc1f:M633+645,fc20:M635+62d,fc21:M635+645,fc22:M636+62c,fc23:M636+62d,fc24:M636+62e,",
    "fc25:M636+645,fc26:M637+62d,fc27:M637+645,fc28:M638+645,fc29:M639+62c,fc2a:M639+645,",
    "fc2b:M63a+62c,fc2c:M63a+645,fc2d:M641+62c,fc2e:M641+62d,fc2f:M641+62e,fc30:M641+645,",
    "fc31:M641+649,fc32:M641+64a,fc33:M642+62d,fc34:M642+645,fc35:M642+649,fc36:M642+64a,",
    "fc37:M643+627,fc38:M643+62c,fc39:M643+62d,fc3a:M643+62e,fc3b:M643+644,fc3c:M643+645,",
    "fc3d:M643+649,fc3e:M643+64a,fc3f:M644+62c,fc40:M644+62d,fc41:M644+62e,fc42:M644+645,",
    "fc43:M644+649,fc44:M644+64a,fc45:M645+62c,fc46:M645+62d,fc47:M645+62e,fc48:M645+645,",
    "fc49:M645+649,fc4a:M645+64a,fc4b:M646+62c,fc4c:M646+62d,fc4d:M646+62e,fc4e:M646+645,",
    "fc4f:M646+649,fc50:M646+64a,fc51:M647+62c,fc52:M647+645,fc53:M647+649,fc54:M647+64a,",
    "fc55:M64a+62c,fc56:M64a+62d,fc57:M64a+62e,fc58:M64a+645,fc59:M64a+649,fc5a:M64a+64a,",
    "fc5b:M630+670,fc5c:M631+670,fc5d:M649+670,fc5e:M20+64c+651,fc5f:M20+64d+651,",
    "fc60:M20+64e+651,fc61:M20+64f+651,fc62:M20+650+651,fc63:M20+651+670,fc64:M626+631,",
    "fc65:M626+632,fc66:M626+645,fc67:M626+646,fc68:M626+649,fc69:M626+64a,fc6a:M628+631,",
    "fc6b:M628+632,fc6c:M628+645,fc6d:M628+646,fc6e:M628+649,fc6f:M628+64a,fc70:M62a+631,",
    "fc71:M62a+632,fc72:M62a+645,fc73:M62a+646,fc74:M62a+649,fc75:M62a+64a,fc76:M62b+631,",
    "fc77:M62b+632,fc78:M62b+645,fc79:M62b+646,fc7a:M62b+649,fc7b:M62b+64a,fc7c:M641+649,",
    "fc7d:M641+64a,fc7e:M642+649,fc7f:M642+64a,fc80:M643+627,fc81:M643+644,fc82:M643+645,",
    "fc83:M643+649,fc84:M643+64a,fc85:M644+645,fc86:M644+649,fc87:M644+64a,fc88:M645+627,",
    "fc89:M645+645,fc8a:M646+631,fc8b:M646+632,fc8c:M646+645,fc8d:M646+646,fc8e:M646+649,",
    "fc8f:M646+64a,fc90:M649+670,fc91:M64a+631,fc92:M64a+632,fc93:M64a+645,fc94:M64a+646,",
    "fc95:M64a+649,fc96:M64a+64a,fc97:M626+62c,fc98:M626+62d,fc99:M626+62e,fc9a:M626+645,",
    "fc9b:M626+647,fc9c:M628+62c,fc9d:M628+62d,fc9e:M628+62e,fc9f:M628+645,fca0:M628+647,",
    "fca1:M62a+62c,fca2:M62a+62d,fca3:M62a+62e,fca4:M62a+645,fca5:M62a+647,fca6:M62b+645,",
    "fca7:M62c+62d,fca8:M62c+645,fca9:M62d+62c,fcaa:M62d+645,fcab:M62e+62c,fcac:M62e+645,",
    "fcad:M633+62c,fcae:M633+62d,fcaf:M633+62e,fcb0:M633+645,fcb1:M635+62d,fcb2:M635+62e,",
    "fcb3:M635+645,fcb4:M636+62c,fcb5:M636+62d,fcb6:M636+62e,fcb7:M636+645,fcb8:M637+62d,",
    "fcb9:M638+645,fcba:M639+62c,fcbb:M639+645,fcbc:M63a+62c,fcbd:M63a+645,fcbe:M641+62c,",
    "fcbf:M641+62d,fcc0:M641+62e,fcc1:M641+645,fcc2:M642+62d,fcc3:M642+645,fcc4:M643+62c,",
    "fcc5:M643+62d,fcc6:M643+62e,fcc7:M643+644,fcc8:M643+645,fcc9:M644+62c,fcca:M644+62d,",
    "fccb:M644+62e,fccc:M644+645,fccd:M644+647,fcce:M645+62c,fccf:M645+62d,fcd0:M645+62e,",
    "fcd1:M645+645,fcd2:M646+62c,fcd3:M646+62d,fcd4:M646+62e,fcd5:M646+645,fcd6:M646+647,",
    "fcd7:M647+62c,fcd8:M647+645,fcd9:M647+670,fcda:M64a+62c,fcdb:M64a+62d,fcdc:M64a+62e,",
    "fcdd:M64a+645,fcde:M64a+647,fcdf:M626+645,fce0:M626+647,fce1:M628+645,fce2:M628+647,",
    "fce3:M62a+645,fce4:M62a+647,fce5:M62b+645,fce6:M62b+647,fce7:M633+645,fce8:M633+647,",
    "fce9:M634+645,fcea:M634+647,fceb:M643+644,fcec:M643+645,fced:M644+645,fcee:M646+645,",
    "fcef:M646+647,fcf0:M64a+645,fcf1:M64a+647,fcf2:M640+64e+651,fcf3:M640+64f+651,",
    "fcf4:M640+650+651,fcf5:M637+649,fcf6:M637+64a,fcf7:M639+649,fcf8:M639+64a,fcf9:M63a+649,",
    "fcfa:M63a+64a,fcfb:M633+649,fcfc:M633+64a,fcfd:M634+649,fcfe:M634+64a,fcff:M62d+649,",
    "fd00:M62d+64a,fd01:M62c+649,fd02:M62c+64a,fd03:M62e+649,fd04:M62e+64a,fd05:M635+649,",
    "fd06:M635+64a,fd07:M636+649,fd08:M636+64a,fd09:M634+62c,fd0a:M634+62d,fd0b:M634+62e,",
    "fd0c:M634+645,fd0d:M634+631,fd0e:M633+631,fd0f:M635+631,fd10:M636+631,fd11:M637+649,",
    "fd12:M637+64a,fd13:M639+649,fd14:M639+64a,fd15:M63a+649,fd16:M63a+64a,fd17:M633+649,",
    "fd18:M633+64a,fd19:M634+649,fd1a:M634+64a,fd1b:M62d+649,fd1c:M62d+64a,fd1d:M62c+649,",
    "fd1e:M62c+64a,fd1f:M62e+649,fd20:M62e+64a,fd21:M635+649,fd22:M635+64a,fd23:M636+649,",
    "fd24:M636+64a,fd25:M634+62c,fd26:M634+62d,fd27:M634+62e,fd28:M634+645,fd29:M634+631,",
    "fd2a:M633+631,fd2b:M635+631,fd2c:M636+631,fd2d:M634+62c,fd2e:M634+62d,fd2f:M634+62e,",
    "fd30:M634+645,fd31:M633+647,fd32:M634+647,fd33:M637+645,fd34:M633+62c,fd35:M633+62d,",
    "fd36:M633+62e,fd37:M634+62c,fd38:M634+62d,fd39:M634+62e,fd3a:M637+645,fd3b:M638+645,",
    "fd3c:M627+64b,fd3e:V,fd50:M62a+62c+645,fd51:M62a+62d+62c,fd53:M62a+62d+645,",
    "fd54:M62a+62e+645,fd55:M62a+645+62c,fd56:M62a+645+62d,fd57:M62a+645+62e,fd58:M62c+645+62d,",
    "fd5a:M62d+645+64a,fd5b:M62d+645+649,fd5c:M633+62d+62c,fd5d:M633+62c+62d,fd5e:M633+62c+649,",
    "fd5f:M633+645+62d,fd61:M633+645+62c,fd62:M633+645+645,fd64:M635+62d+62d,fd66:M635+645+645,",
    "fd67:M634+62d+645,fd69:M634+62c+64a,fd6a:M634+645+62e,fd6c:M634+645+645,fd6e:M636+62d+649,",
    "fd6f:M636+62e+645,fd71:M637+645+62d,fd73:M637+645+645,fd74:M637+645+64a,fd75:M639+62c+645,",
    "fd76:M639+645+645,fd78:M639+645+649,fd79:M63a+645+645,fd7a:M63a+645+64a,fd7b:M63a+645+649,",
    "fd7c:M641+62e+645,fd7e:M642+645+62d,fd7f:M642+645+645,fd80:M644+62d+645,fd81:M644+62d+64a,",
    "fd82:M644+62d+649,fd83:M644+62c+62c,fd85:M644+62e+645,fd87:M644+645+62d,fd89:M645+62d+62c,",
    "fd8a:M645+62d+645,fd8b:M645+62d+64a,fd8c:M645+62c+62d,fd8d:M645+62c+645,fd8e:M645+62e+62c,",
    "fd8f:M645+62e+645,fd90:V,fd92:M645+62c+62e,fd93:M647+645+62c,fd94:M647+645+645,",
    "fd95:M646+62d+645,fd96:M646+62d+649,fd97:M646+62c+645,fd99:M646+62c+649,fd9a:M646+645+64a,",
    "fd9b:M646+645+649,fd9c:M64a+645+645,fd9e:M628+62e+64a,fd9f:M62a+62c+64a,fda0:M62a+62c+649,",
    "fda1:M62a+62e+64a,fda2:M62a+62e+649,fda3:M62a+645+64a,fda4:M62a+645+649,fda5:M62c+645+64a,",
    "fda6:M62c+62d+649,fda7:M62c+645+649,fda8:M633+62e+649,fda9:M635+62d+64a,fdaa:M634+62d+64a,",
    "fdab:M636+62d+64a,fdac:M644+62c+64a,fdad:M644+645+64a,fdae:M64a+62d+64a,fdaf:M64a+62c+64a,",
    "fdb0:M64a+645+64a,fdb1:M645+645+64a,fdb2:M642+645+64a,fdb3:M646+62d+64a,fdb4:M642+645+62d,",
    "fdb5:M644+62d+645,fdb6:M639+645+64a,fdb7:M643+645+64a,fdb8:M646+62c+62d,fdb9:M645+62e+64a,",
    "fdba:M644+62c+645,fdbb:M643+645+645,fdbc:M644+62c+645,fdbd:M646+62c+62d,fdbe:M62c+62d+64a,",
    "fdbf:M62d+62c+64a,fdc0:M645+62c+64a,fdc1:M641+645+64a,fdc2:M628+62d+64a,fdc3:M643+645+645,",
    "fdc4:M639+62c+645,fdc5:M635+645+645,fdc6:M633+62e+64a,fdc7:M646+62c+64a,fdc8:V,",
    "fdf0:M635+644+6d2,fdf1:M642+644+6d2,fdf2:M627+644+644+647,fdf3:M627+643+628+631,",
    "fdf4:M645+62d+645+62f,fdf5:M635+644+639+645,fdf6:M631+633+648+644,fdf7:M639+644+64a+647,",
    "fdf8:M648+633+644+645,fdf9:M635+644+649,",
    "fdfa:M635+644+649+20+627+644+644+647+20+639+644+64a+647+20+648+633+644+645,",
    "fdfb:M62c+644+20+62c+644+627+644+647,fdfc:M631+6cc+627+644,fdfd:V,fe00:I,fe10:M2c,",
    "fe11:M3001,fe12:X,fe13:S-64985,fe15:M21,fe16:M3f,fe17:S-52737,fe19:X,fe1a:V,fe30:X,",
    "fe31:M2014,fe32:M2013,fe33:M5f,fe35:S-65037,fe37:M7b,fe38:M7d,fe39:S-52773,fe3b:S-52779,",
    "fe3d:S-52787,fe3f:S-52791,fe41:S-52789,fe45:V,fe47:M5b,fe48:M5d,fe49:M20+305,fe4d:M5f,",
    "fe50:M2c,fe51:M3001,fe52:X,fe53:V,fe54:M3b,fe55:M3a,fe56:M3f,fe57:M21,fe58:M2014,",
    "fe59:S-65073,fe5b:M7b,fe5c:M7d,fe5d:S-52809,fe5f:M23,fe60:M26,fe61:S-65079,fe63:M2d,",
    "fe64:M3c,fe65:M3e,fe66:M3d,fe67:V,fe68:M5c,fe69:S-65093,fe6b:M40,fe6c:V,fe70:M20+64b,",
    "fe71:M640+64b,fe72:M20+64c,fe73:V,fe74:M20+64d,fe75:V,fe76:M20+64e,fe77:M640+64e,",
    "fe78:M20+64f,fe79:M640+64f,fe7a:M20+650,fe7b:M640+650,fe7c:M20+651,fe7d:M640+651,",
    "fe7e:M20+652,fe7f:M640+652,fe80:M621,fe81:M622,fe83:M623,fe85:M624,fe87:M625,fe89:M626,",
    "fe8d:M627,fe8f:M628,fe93:M629,fe95:M62a,fe99:M62b,fe9d:M62c,fea1:M62d,fea5:M62e,fea9:M62f,",
    "feab:M630,fead:M631,feaf:M632,feb1:M633,feb5:M634,feb9:M635,febd:M636,fec1:M637,fec5:M638,",
    "fec9:M639,fecd:M63a,fed1:M641,fed5:M642,fed9:M643,fedd:M644,fee1:M645,fee5:M646,fee9:M647,",
    "feed:M648,feef:M649,fef1:M64a,fef5:M644+622,fef7:M644+623,fef9:M644+625,fefb:M644+627,",
    "fefd:V,feff:I,ff00:V,ff01:S-65248,ff21:S-65216,ff3b:S-65248,ff5f:S-54746,ff61:M2e,",
    "ff62:S-53078,ff64:M3001,ff65:M30fb,ff66:M30f2,ff67:M30a1,ff68:M30a3,ff69:M30a5,ff6a:M30a7,",
    "ff6b:M30a9,ff6c:M30e3,ff6d:M30e5,ff6e:M30e7,ff6f:M30c3,ff70:M30fc,ff71:M30a2,ff72:M30a4,",
    "ff73:M30a6,ff74:M30a8,ff75:S-52939,ff77:M30ad,ff78:M30af,ff79:M30b1,ff7a:M30b3,ff7b:M30b5,",
    "ff7c:M30b7,ff7d:M30b9,ff7e:M30bb,ff7f:M30bd,ff80:M30bf,ff81:M30c1,ff82:M30c4,ff83:M30c6,",
    "ff84:M30c8,ff85:S-52923,ff8b:M30d2,ff8c:M30d5,ff8d:M30d8,ff8e:M30db,ff8f:S-52913,ff94:M30e4,",
    "ff95:M30e6,ff96:S-52910,ff9c:M30ef,ff9d:M30f3,ff9e:S-52997,ffa0:I,ffa1:S-61089,ffa3:M11aa,",
    "ffa4:M1102,ffa5:S-60921,ffa7:S-61092,ffaa:S-60922,ffb0:M111a,ffb1:S-61099,ffb4:M1121,",
    "ffb5:S-61100,ffbf:V,ffc2:S-61025,ffc8:V,ffca:S-61027,ffd0:V,ffd2:S-61029,ffd8:V,",
    "ffda:S-61031,ffdd:V,ffe0:S-65342,ffe2:Mac,ffe3:M20+304,ffe4:Ma6,ffe5:Ma5,ffe6:M20a9,ffe7:V,",
    "ffe8:M2502,ffe9:S-56921,ffed:M25a0,ffee:M25cb,ffef:V,fff9:X,fffe:V,10400:S40,10428:V,",
    "104b0:S40,104d4:V,10570:S39,1057b:V,1057c:S39,1058b:V,1058c:S39,10593:V,10594:S39,10596:V,",
    "10781:S-66737,10783:Me6,10784:M299,10785:M253,10786:V,10787:M2a3,10788:Mab66,10789:M2a5,",
    "1078a:M2a4,1078b:S-66869,1078d:M1d91,1078e:M258,1078f:M25e,10790:M2a9,10791:M264,10792:M262,",
    "10793:M260,10794:M29b,10795:M127,10796:M29c,10797:M267,10798:M284,10799:S-66799,1079b:M26c,",
    "1079c:M1df04,1079d:Ma78e,1079e:M26e,1079f:M1df05,107a0:M28e,107a1:M1df06,107a2:Mf8,",
    "107a3:S-66861,107a5:M71,107a6:M27a,107a7:M1df08,107a8:S-66859,107aa:M280,107ab:M2a8,",
    "107ac:M2a6,107ad:Mab67,107ae:M2a7,107af:M288,107b0:M2c71,107b1:V,107b2:M28f,107b3:S-66834,",
    "107b5:M298,107b6:S-67062,107b9:M1df0a,107ba:M1df1e,107bb:V,10c80:S64,10cb3:V,10d50:S32,",
    "10d66:V,110bd:X,110be:V,110cd:X,110ce:V,118a0:S32,118c0:V,13430:X,13440:V,16e40:S32,16e60:V,",
    "16ea0:S27,16eb9:V,1bca0:I,1bca4:V,1ccd6:S-117877,1ccf0:S-117952,1ccfa:V,1d15e:M1d157+1d165,",
    "1d15f:M1d158+1d165,1d160:M1d158+1d165+1d16e,1d161:M1d158+1d165+1d16f,",
    "1d162:M1d158+1d165+1d170,1d163:M1d158+1d165+1d171,1d164:M1d158+1d165+1d172,1d165:V,1d173:I,",
    "1d17b:V,1d1bb:M1d1b9+1d165,1d1bc:M1d1ba+1d165,1d1bd:M1d1b9+1d165+1d16e,",
    "1d1be:M1d1ba+1d165+1d16e,1d1bf:M1d1b9+1d165+1d16f,1d1c0:M1d1ba+1d165+1d16f,1d1c1:V,",
    "1d400:S-119711,1d41a:S-119737,1d434:S-119763,1d44e:S-119789,1d455:V,1d456:S-119789,",
    "1d468:S-119815,1d482:S-119841,1d49c:M61,1d49d:V,1d49e:S-119867,1d4a0:V,1d4a2:M67,1d4a3:V,",
    "1d4a5:S-119867,1d4a7:V,1d4a9:S-119867,1d4ad:V,1d4ae:S-119867,1d4b6:S-119893,1d4ba:V,",
    "1d4bb:M66,1d4bc:V,1d4bd:S-119893,1d4c4:V,1d4c5:S-119893,1d4d0:S-119919,1d4ea:S-119945,",
    "1d504:S-119971,1d506:V,1d507:S-119971,1d50b:V,1d50d:S-119971,1d515:V,1d516:S-119971,1d51d:V,",
    "1d51e:S-119997,1d538:S-120023,1d53a:V,1d53b:S-120023,1d53f:V,1d540:S-120023,1d545:V,",
    "1d546:M6f,1d547:V,1d54a:S-120023,1d551:V,1d552:S-120049,1d56c:S-120075,1d586:S-120101,",
    "1d5a0:S-120127,1d5ba:S-120153,1d5d4:S-120179,1d5ee:S-120205,1d608:S-120231,1d622:S-120257,",
    "1d63c:S-120283,1d656:S-120309,1d670:S-120335,1d68a:S-120361,1d6a4:M131,1d6a5:M237,1d6a6:V,",
    "1d6a8:S-119543,1d6b9:M3b8,1d6ba:S-119543,1d6c1:M2207,1d6c2:S-119569,1d6d3:M3c3,",
    "1d6d5:S-119569,1d6db:M2202,1d6dc:M3b5,1d6dd:M3b8,1d6de:M3ba,1d6df:M3c6,1d6e0:M3c1,",
    "1d6e1:M3c0,1d6e2:S-119601,1d6f3:M3b8,1d6f4:S-119601,1d6fb:M2207,1d6fc:S-119627,1d70d:M3c3,",
    "1d70f:S-119627,1d715:M2202,1d716:M3b5,1d717:M3b8,1d718:M3ba,1d719:M3c6,1d71a:M3c1,",
    "1d71b:M3c0,1d71c:S-119659,1d72d:M3b8,1d72e:S-119659,1d735:M2207,1d736:S-119685,1d747:M3c3,",
    "1d749:S-119685,1d74f:M2202,1d750:M3b5,1d751:M3b8,1d752:M3ba,1d753:M3c6,1d754:M3c1,",
    "1d755:M3c0,1d756:S-119717,1d767:M3b8,1d768:S-119717,1d76f:M2207,1d770:S-119743,1d781:M3c3,",
    "1d783:S-119743,1d789:M2202,1d78a:M3b5,1d78b:M3b8,1d78c:M3ba,1d78d:M3c6,1d78e:M3c1,",
    "1d78f:M3c0,1d790:S-119775,1d7a1:M3b8,1d7a2:S-119775,1d7a9:M2207,1d7aa:S-119801,1d7bb:M3c3,",
    "1d7bd:S-119801,1d7c3:M2202,1d7c4:M3b5,1d7c5:M3b8,1d7c6:M3ba,1d7c7:M3c6,1d7c8:M3c1,",
    "1d7c9:M3c0,1d7ca:M3dd,1d7cc:V,1d7ce:S-120734,1d7d8:S-120744,1d7e2:S-120754,1d7ec:S-120764,",
    "1d7f6:S-120774,1d800:V,1e030:S-121856,1e039:S-121855,1e03c:S-121854,1e047:M44b,",
    "1e048:S-121851,1e04a:Ma689,1e04b:M4d9,1e04c:M456,1e04d:M458,1e04e:M4e9,1e04f:M4af,",
    "1e050:M4cf,1e051:S-121889,1e05a:S-121888,1e05c:S-121886,1e05e:M441,1e05f:S-121884,",
    "1e065:S-121883,1e067:M491,1e068:M456,1e069:M455,1e06a:M45f,1e06b:M4ab,1e06c:Ma651,",
    "1e06d:M4b1,1e06e:V,1e900:S34,1e922:V,1ee00:S-124889,1ee02:M62c,1ee03:M62f,1ee04:V,",
    "1ee05:M648,1ee06:M632,1ee07:M62d,1ee08:M637,1ee09:M64a,1ee0a:S-124871,1ee0e:M633,1ee0f:M639,",
    "1ee10:M641,1ee11:M635,1ee12:M642,1ee13:M631,1ee14:M634,1ee15:S-124907,1ee17:M62e,1ee18:M630,",
    "1ee19:M636,1ee1a:M638,1ee1b:M63a,1ee1c:M66e,1ee1d:M6ba,1ee1e:M6a1,1ee1f:M66f,1ee20:V,",
    "1ee21:M628,1ee22:M62c,1ee23:V,1ee24:M647,1ee25:V,1ee27:M62d,1ee28:V,1ee29:M64a,",
    "1ee2a:S-124903,1ee2e:M633,1ee2f:M639,1ee30:M641,1ee31:M635,1ee32:M642,1ee33:V,1ee34:M634,",
    "1ee35:S-124939,1ee37:M62e,1ee38:V,1ee39:M636,1ee3a:V,1ee3b:M63a,1ee3c:V,1ee42:M62c,1ee43:V,",
    "1ee47:M62d,1ee48:V,1ee49:M64a,1ee4a:V,1ee4b:M644,1ee4c:V,1ee4d:M646,1ee4e:M633,1ee4f:M639,",
    "1ee50:V,1ee51:M635,1ee52:M642,1ee53:V,1ee54:M634,1ee55:V,1ee57:M62e,1ee58:V,1ee59:M636,",
    "1ee5a:V,1ee5b:M63a,1ee5c:V,1ee5d:M6ba,1ee5e:V,1ee5f:M66f,1ee60:V,1ee61:M628,1ee62:M62c,",
    "1ee63:V,1ee64:M647,1ee65:V,1ee67:M62d,1ee68:M637,1ee69:M64a,1ee6a:M643,1ee6b:V,",
    "1ee6c:S-124967,1ee6e:M633,1ee6f:M639,1ee70:M641,1ee71:M635,1ee72:M642,1ee73:V,1ee74:M634,",
    "1ee75:S-125003,1ee77:M62e,1ee78:V,1ee79:M636,1ee7a:M638,1ee7b:M63a,1ee7c:M66e,1ee7d:V,",
    "1ee7e:M6a1,1ee7f:V,1ee80:S-125017,1ee82:M62c,1ee83:M62f,1ee84:S-124989,1ee86:M632,",
    "1ee87:M62d,1ee88:M637,1ee89:M64a,1ee8a:V,1ee8b:S-124999,1ee8e:M633,1ee8f:M639,1ee90:M641,",
    "1ee91:M635,1ee92:M642,1ee93:M631,1ee94:M634,1ee95:S-125035,1ee97:M62e,1ee98:M630,1ee99:M636,",
    "1ee9a:M638,1ee9b:M63a,1ee9c:V,1eea1:M628,1eea2:M62c,1eea3:M62f,1eea4:V,1eea5:M648,",
    "1eea6:M632,1eea7:M62d,1eea8:M637,1eea9:M64a,1eeaa:V,1eeab:S-125031,1eeae:M633,1eeaf:M639,",
    "1eeb0:M641,1eeb1:M635,1eeb2:M642,1eeb3:M631,1eeb4:M634,1eeb5:S-125067,1eeb7:M62e,1eeb8:M630,",
    "1eeb9:M636,1eeba:M638,1eebb:M63a,1eebc:V,1f100:X,1f101:M30+2c,1f102:M31+2c,1f103:M32+2c,",
    "1f104:M33+2c,1f105:M34+2c,1f106:M35+2c,1f107:M36+2c,1f108:M37+2c,1f109:M38+2c,1f10a:M39+2c,",
    "1f10b:V,1f110:M28+61+29,1f111:M28+62+29,1f112:M28+63+29,1f113:M28+64+29,1f114:M28+65+29,",
    "1f115:M28+66+29,1f116:M28+67+29,1f117:M28+68+29,1f118:M28+69+29,1f119:M28+6a+29,",
    "1f11a:M28+6b+29,1f11b:M28+6c+29,1f11c:M28+6d+29,1f11d:M28+6e+29,1f11e:M28+6f+29,",
    "1f11f:M28+70+29,1f120:M28+71+29,1f121:M28+72+29,1f122:M28+73+29,1f123:M28+74+29,",
    "1f124:M28+75+29,1f125:M28+76+29,1f126:M28+77+29,1f127:M28+78+29,1f128:M28+79+29,",
    "1f129:M28+7a+29,1f12a:M3014+73+3015,1f12b:M63,1f12c:M72,1f12d:M63+64,1f12e:M77+7a,1f12f:V,",
    "1f130:S-127183,1f14a:M68+76,1f14b:M6d+76,1f14c:M73+64,1f14d:M73+73,1f14e:M70+70+76,",
    "1f14f:M77+63,1f150:V,1f16a:M6d+63,1f16b:M6d+64,1f16c:M6d+72,1f16d:V,1f190:M64+6a,1f191:V,",
    "1f200:M307b+304b,1f201:M30b3+30b3,1f202:M30b5,1f203:V,1f210:M624b,1f211:M5b57,1f212:M53cc,",
    "1f213:M30c7,1f214:M4e8c,1f215:M591a,1f216:M89e3,1f217:M5929,1f218:M4ea4,1f219:M6620,",
    "1f21a:M7121,1f21b:M6599,1f21c:M524d,1f21d:M5f8c,1f21e:M518d,1f21f:M65b0,1f220:M521d,",
    "1f221:M7d42,1f222:M751f,1f223:M8ca9,1f224:M58f0,1f225:M5439,1f226:M6f14,1f227:M6295,",
    "1f228:M6355,1f229:M4e00,1f22a:M4e09,1f22b:M904a,1f22c:M5de6,1f22d:M4e2d,1f22e:M53f3,",
    "1f22f:M6307,1f230:M8d70,1f231:M6253,1f232:M7981,1f233:M7a7a,1f234:M5408,1f235:M6e80,",
    "1f236:M6709,1f237:M6708,1f238:M7533,1f239:M5272,1f23a:M55b6,1f23b:M914d,1f23c:V,",
    "1f240:M3014+672c+3015,1f241:M3014+4e09+3015,1f242:M3014+4e8c+3015,1f243:M3014+5b89+3015,",
    "1f244:M3014+70b9+3015,1f245:M3014+6253+3015,1f246:M3014+76d7+3015,1f247:M3014+52dd+3015,",
    "1f248:M3014+6557+3015,1f249:V,1f250:M5f97,1f251:M53ef,1f252:V,1fbf0:S-129984,1fbfa:V,",
    "2f800:M4e3d,2f801:M4e38,2f802:M4e41,2f803:M20122,2f804:M4f60,2f805:M4fae,2f806:M4fbb,",
    "2f807:M5002,2f808:M507a,2f809:M5099,2f80a:M50e7,2f80b:M50cf,2f80c:M349e,2f80d:M2063a,",
    "2f80e:M514d,2f80f:M5154,2f810:M5164,2f811:M5177,2f812:M2051c,2f813:M34b9,2f814:M5167,",
    "2f815:M518d,2f816:M2054b,2f817:M5197,2f818:M51a4,2f819:M4ecc,2f81a:M51ac,2f81b:M51b5,",
    "2f81c:M291df,2f81d:M51f5,2f81e:M5203,2f81f:M34df,2f820:M523b,2f821:M5246,2f822:M5272,",
    "2f823:M5277,2f824:M3515,2f825:M52c7,2f826:M52c9,2f827:M52e4,2f828:M52fa,2f829:S-173348,",
    "2f82b:M5317,2f82c:M5349,2f82d:M5351,2f82e:M535a,2f82f:M5373,2f830:M537d,2f831:M537f,",
    "2f834:M20a2c,2f835:M7070,2f836:M53ca,2f837:M53df,2f838:M20b63,2f839:M53eb,2f83a:M53f1,",
    "2f83b:M5406,2f83c:M549e,2f83d:M5438,2f83e:M5448,2f83f:M5468,2f840:M54a2,2f841:M54f6,",
    "2f842:M5510,2f843:M5553,2f844:M5563,2f845:M5584,2f847:M5599,2f848:M55ab,2f849:M55b3,",
    "2f84a:M55c2,2f84b:M5716,2f84c:M5606,2f84d:M5717,2f84e:M5651,2f84f:M5674,2f850:M5207,",
    "2f851:M58ee,2f852:M57ce,2f853:M57f4,2f854:M580d,2f855:M578b,2f856:M5832,2f857:M5831,",
    "2f858:M58ac,2f859:M214e4,2f85a:M58f2,2f85b:M58f7,2f85c:M5906,2f85d:M591a,2f85e:M5922,",
    "2f85f:M5962,2f860:M216a8,2f861:M216ea,2f862:M59ec,2f863:M5a1b,2f864:M5a27,2f865:M59d8,",
    "2f866:M5a66,2f867:M36ee,2f868:M36fc,2f869:M5b08,2f86a:M5b3e,2f86c:M219c8,2f86d:M5bc3,",
    "2f86e:M5bd8,2f86f:M5be7,2f870:M5bf3,2f871:M21b18,2f872:M5bff,2f873:M5c06,2f874:M5f53,",
    "2f875:M5c22,2f876:M3781,2f877:M5c60,2f878:M5c6e,2f879:M5cc0,2f87a:M5c8d,2f87b:M21de4,",
    "2f87c:M5d43,2f87d:M21de6,2f87e:M5d6e,2f87f:M5d6b,2f880:M5d7c,2f881:S-170656,2f883:M382f,",
    "2f884:M5dfd,2f885:M5e28,2f886:M5e3d,2f887:M5e69,2f888:M3862,2f889:M22183,2f88a:M387c,",
    "2f88b:M5eb0,2f88c:M5eb3,2f88d:M5eb6,2f88e:M5eca,2f88f:M2a392,2f890:M5efe,2f891:M22331,",
    "2f893:M8201,2f894:M5f22,2f896:M38c7,2f897:M232b8,2f898:M261da,2f899:M5f62,2f89a:M5f6b,",
    "2f89b:M38e3,2f89c:M5f9a,2f89d:M5fcd,2f89e:M5fd7,2f89f:M5ff9,2f8a0:M6081,2f8a1:M393a,",
    "2f8a2:M391c,2f8a3:M6094,2f8a4:M226d4,2f8a5:M60c7,2f8a6:M6148,2f8a7:M614c,2f8a8:M614e,",
    "2f8a9:M614c,2f8aa:M617a,2f8ab:M618e,2f8ac:M61b2,2f8ad:M61a4,2f8ae:M61af,2f8af:M61de,",
    "2f8b0:M61f2,2f8b1:M61f6,2f8b2:M6210,2f8b3:M621b,2f8b4:M625d,2f8b5:M62b1,2f8b6:M62d4,",
    "2f8b7:M6350,2f8b8:M22b0c,2f8b9:M633d,2f8ba:M62fc,2f8bb:M6368,2f8bc:M6383,2f8bd:M63e4,",
    "2f8be:M22bf1,2f8bf:M6422,2f8c0:M63c5,2f8c1:M63a9,2f8c2:M3a2e,2f8c3:M6469,2f8c4:M647e,",
    "2f8c5:M649d,2f8c6:M6477,2f8c7:M3a6c,2f8c8:M654f,2f8c9:M656c,2f8ca:M2300a,2f8cb:M65e3,",
    "2f8cc:M66f8,2f8cd:M6649,2f8ce:M3b19,2f8cf:M6691,2f8d0:M3b08,2f8d1:M3ae4,2f8d2:M5192,",
    "2f8d3:M5195,2f8d4:M6700,2f8d5:M669c,2f8d6:M80ad,2f8d7:M43d9,2f8d8:M6717,2f8d9:M671b,",
    "2f8da:M6721,2f8db:M675e,2f8dc:M6753,2f8dd:M233c3,2f8de:M3b49,2f8df:M67fa,2f8e0:M6785,",
    "2f8e1:M6852,2f8e2:M6885,2f8e3:M2346d,2f8e4:M688e,2f8e5:M681f,2f8e6:M6914,2f8e7:M3b9d,",
    "2f8e8:M6942,2f8e9:M69a3,2f8ea:M69ea,2f8eb:M6aa8,2f8ec:M236a3,2f8ed:M6adb,2f8ee:M3c18,",
    "2f8ef:M6b21,2f8f0:M238a7,2f8f1:M6b54,2f8f2:M3c4e,2f8f3:M6b72,2f8f4:M6b9f,2f8f5:S-167227,",
    "2f8f7:M23a8d,2f8f8:M21d0b,2f8f9:M23afa,2f8fa:M6c4e,2f8fb:M23cbc,2f8fc:M6cbf,2f8fd:M6ccd,",
    "2f8fe:M6c67,2f8ff:M6d16,2f900:M6d3e,2f901:M6d77,2f902:M6d41,2f903:M6d69,2f904:M6d78,",
    "2f905:M6d85,2f906:M23d1e,2f907:M6d34,2f908:M6e2f,2f909:M6e6e,2f90a:M3d33,2f90b:M6ecb,",
    "2f90c:M6ec7,2f90d:M23ed1,2f90e:M6df9,2f90f:M6f6e,2f910:M23f5e,2f911:M23f8e,2f912:M6fc6,",
    "2f913:M7039,2f914:M701e,2f915:M701b,2f916:M3d96,2f917:M704a,2f918:M707d,2f919:M7077,",
    "2f91a:M70ad,2f91b:M20525,2f91c:M7145,2f91d:M24263,2f91e:M719c,2f91f:M243ab,2f920:M7228,",
    "2f921:M7235,2f922:M7250,2f923:M24608,2f924:M7280,2f925:M7295,2f926:M24735,2f927:M24814,",
    "2f928:M737a,2f929:M738b,2f92a:M3eac,2f92b:M73a5,2f92c:M3eb8,2f92e:M7447,2f92f:M745c,",
    "2f930:M7471,2f931:M7485,2f932:M74ca,2f933:M3f1b,2f934:M7524,2f935:M24c36,2f936:M753e,",
    "2f937:M24c92,2f938:M7570,2f939:M2219f,2f93a:M7610,2f93b:M24fa1,2f93c:M24fb8,2f93d:M25044,",
    "2f93e:M3ffc,2f93f:M4008,2f940:M76f4,2f941:M250f3,2f942:M250f2,2f943:M25119,2f944:M25133,",
    "2f945:M771e,2f946:M771f,2f948:M774a,2f949:M4039,2f94a:M778b,2f94b:M4046,2f94c:M4096,",
    "2f94d:M2541d,2f94e:M784e,2f94f:M788c,2f950:M78cc,2f951:M40e3,2f952:M25626,2f953:M7956,",
    "2f954:M2569a,2f955:M256c5,2f956:M798f,2f957:M79eb,2f958:M412f,2f959:M7a40,2f95a:M7a4a,",
    "2f95b:M7a4f,2f95c:M2597c,2f95d:M25aa7,2f95f:M7aee,2f960:M4202,2f961:M25bab,2f962:M7bc6,",
    "2f963:M7bc9,2f964:M4227,2f965:M25c80,2f966:M7cd2,2f967:M42a0,2f968:M7ce8,2f969:M7ce3,",
    "2f96a:M7d00,2f96b:M25f86,2f96c:M7d63,2f96d:M4301,2f96e:M7dc7,2f96f:M7e02,2f970:M7e45,",
    "2f971:M4334,2f972:M26228,2f973:M26247,2f974:M4359,2f975:M262d9,2f976:M7f7a,2f977:M2633e,",
    "2f978:M7f95,2f979:M7ffa,2f97a:M8005,2f97b:M264da,2f97c:M26523,2f97d:M8060,2f97e:M265a8,",
    "2f97f:M8070,2f980:M2335f,2f981:M43d5,2f982:M80b2,2f983:M8103,2f984:M440b,2f985:M813e,",
    "2f986:M5ab5,2f987:M267a7,2f988:M267b5,2f989:M23393,2f98a:M2339c,2f98b:M8201,2f98c:M8204,",
    "2f98d:M8f9e,2f98e:M446b,2f98f:M8291,2f990:M828b,2f991:M829d,2f992:M52b3,2f993:M82b1,",
    "2f994:M82b3,2f995:M82bd,2f996:M82e6,2f997:M26b3c,2f998:M82e5,2f999:M831d,2f99a:M8363,",
    "2f99b:M83ad,2f99c:M8323,2f99d:M83bd,2f99e:M83e7,2f99f:M8457,2f9a0:M8353,2f9a1:M83ca,",
    "2f9a2:M83cc,2f9a3:M83dc,2f9a4:M26c36,2f9a5:M26d6b,2f9a6:M26cd5,2f9a7:M452b,2f9a8:M84f1,",
    "2f9a9:M84f3,2f9aa:M8516,2f9ab:M273ca,2f9ac:M8564,2f9ad:M26f2c,2f9ae:M455d,2f9af:M4561,",
    "2f9b0:M26fb1,2f9b1:M270d2,2f9b2:M456b,2f9b3:M8650,2f9b4:M865c,2f9b5:M8667,2f9b6:M8669,",
    "2f9b7:M86a9,2f9b8:M8688,2f9b9:M870e,2f9ba:M86e2,2f9bb:M8779,2f9bc:M8728,2f9bd:M876b,",
    "2f9be:M8786,2f9bf:M45d7,2f9c0:M87e1,2f9c1:M8801,2f9c2:M45f9,2f9c3:M8860,2f9c4:M8863,",
    "2f9c5:M27667,2f9c6:M88d7,2f9c7:M88de,2f9c8:M4635,2f9c9:M88fa,2f9ca:M34bb,2f9cb:M278ae,",
    "2f9cc:M27966,2f9cd:M46be,2f9ce:M46c7,2f9cf:M8aa0,2f9d0:M8aed,2f9d1:M8b8a,2f9d2:M8c55,",
    "2f9d3:M27ca8,2f9d4:M8cab,2f9d5:M8cc1,2f9d6:M8d1b,2f9d7:M8d77,2f9d8:M27f2f,2f9d9:M20804,",
    "2f9da:M8dcb,2f9db:M8dbc,2f9dc:M8df0,2f9dd:M208de,2f9de:M8ed4,2f9df:M8f38,2f9e0:M285d2,",
    "2f9e1:M285ed,2f9e2:M9094,2f9e3:M90f1,2f9e4:M9111,2f9e5:M2872e,2f9e6:M911b,2f9e7:M9238,",
    "2f9e8:S-157457,2f9ea:M927c,2f9eb:M93f9,2f9ec:M9415,2f9ed:M28bfa,2f9ee:M958b,2f9ef:M4995,",
    "2f9f0:M95b7,2f9f1:M28d77,2f9f2:M49e6,2f9f3:M96c3,2f9f4:M5db2,2f9f5:M9723,2f9f6:M29145,",
    "2f9f7:M2921a,2f9f8:M4a6e,2f9f9:M4a76,2f9fa:M97e0,2f9fb:M2940a,2f9fc:M4ab2,2f9fd:M29496,",
    "2f9fe:M980b,2fa00:M9829,2fa01:M295b6,2fa02:M98e2,2fa03:M4b33,2fa04:M9929,2fa05:M99a7,",
    "2fa06:M99c2,2fa07:M99fe,2fa08:M4bce,2fa09:M29b30,2fa0a:M9b12,2fa0b:M9c40,2fa0c:M9cfd,",
    "2fa0d:M4cce,2fa0e:M4ced,2fa0f:M9d67,2fa10:M2a0ce,2fa11:M4cf8,2fa12:M2a105,2fa13:M2a20e,",
    "2fa14:M2a291,2fa15:M9ebb,2fa16:M4d56,2fa17:M9ef9,2fa18:M9efe,2fa19:M9f05,2fa1a:M9f0f,",
    "2fa1b:M9f16,2fa1c:M9f3b,2fa1d:M2a600,2fa1e:V,e0001:X,e0002:V,e0020:X,e0080:V,e0100:I,",
    "e01f0:V,f0000:X,ffffe:V,100000:X,10fffe:V"])

/-- The status of a code point under the table. -/
def status (c : Char) : Status :=
  match entryAt mappingTable c.toNat with
  | some (_, .uniform s) => s
  | some (_, .shifted d) => .mapped [Char.ofNat (c.toNat + d).toNat]
  | some (start, .paired) =>
    if (c.toNat - start) % 2 = 0 then .mapped [Char.ofNat (c.toNat + 1)] else .valid
  | none => .disallowed

end ShipSlap.Idna
