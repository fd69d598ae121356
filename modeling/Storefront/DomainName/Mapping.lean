import Storefront.Unicode.Table

/-
  What the mapping of internationalized domain names does with each code point (UTS 46,
  Unicode 17).

  A code point is valid and kept; a deviation (`ß`, `ς`, the two joiners), which is kept too
  since the processing is not transitional; ignored and dropped; mapped to a list of code
  points, such as a capital letter to its small letter; or disallowed.  The table lists the
  code points that are not valid.  In a run of mapped code points either every one maps to
  the same list or each is moved by the same offset.
-/

namespace Storefront.DomainName

open Storefront.Unicode

/-- What the mapping does with a code point. -/
inductive Status where
  | valid
  | deviation
  | ignored
  | mapped (points : List Nat)
  | disallowed
  deriving DecidableEq, Repr

/-- How the code points of a run are treated: as a status, or moved by an offset. -/
inductive Rule where
  | fixed (status : Status)
  | offset (up : Bool) (distance : Nat)
  deriving DecidableEq, Repr

/-- A rule by its text: `V`, `D`, `I`, `X`, `M` and a list of code points, or `M+` or `M-` and
an offset. -/
def Rule.ofCode (code : List Char) : Rule :=
  match code with
  | ['D'] => .fixed .deviation
  | ['I'] => .fixed .ignored
  | ['X'] => .fixed .disallowed
  | 'M' :: '+' :: d => .offset true (hexValue d)
  | 'M' :: '-' :: d => .offset false (hexValue d)
  | 'M' :: ps => .fixed (.mapped (hexList ps))
  | _ => .fixed .valid

/-- The runs of code points that are not valid, each with its rule. -/
def mappingText : String :=
  String.join
    ["41-5a=M+20 80-9f=X a0=M-80 a8=M20.308 aa=M-49 ad=I af=M20.304 b2-b3=M-80 b4=M20.301 b5=M+307 b8=M20.",
     "327 b9=M-88 ba=M-4b bc=M31.2044.34 bd=M31.2044.32 be=M33.2044.34 c0-d6=M+20 d8-de=M+20 df=D 100=M+1 ",
     "102=M+1 104=M+1 106=M+1 108=M+1 10a=M+1 10c=M+1 10e=M+1 110=M+1 112=M+1 114=M+1 116=M+1 118=M+1 11a=",
     "M+1 11c=M+1 11e=M+1 120=M+1 122=M+1 124=M+1 126=M+1 128=M+1 12a=M+1 12c=M+1 12e=M+1 130=M69.307 132-",
     "133=M69.6a 134=M+1 136=M+1 139=M+1 13b=M+1 13d=M+1 13f-140=M6c.b7 141=M+1 143=M+1 145=M+1 147=M+1 14",
     "9=M2bc.6e 14a=M+1 14c=M+1 14e=M+1 150=M+1 152=M+1 154=M+1 156=M+1 158=M+1 15a=M+1 15c=M+1 15e=M+1 16",
     "0=M+1 162=M+1 164=M+1 166=M+1 168=M+1 16a=M+1 16c=M+1 16e=M+1 170=M+1 172=M+1 174=M+1 176=M+1 178=M-",
     "79 179=M+1 17b=M+1 17d=M+1 17f=M-10c 181=M+d2 182=M+1 184=M+1 186=M+ce 187=M+1 189-18a=M+cd 18b=M+1 ",
     "18e=M+4f 18f=M+ca 190=M+cb 191=M+1 193=M+cd 194=M+cf 196=M+d3 197=M+d1 198=M+1 19c=M+d3 19d=M+d5 19f",
     "=M+d6 1a0=M+1 1a2=M+1 1a4=M+1 1a6=M+da 1a7=M+1 1a9=M+da 1ac=M+1 1ae=M+da 1af=M+1 1b1-1b2=M+d9 1b3=M+",
     "1 1b5=M+1 1b7=M+db 1b8=M+1 1bc=M+1 1c4-1c6=M64.17e 1c7-1c9=M6c.6a 1ca-1cc=M6e.6a 1cd=M+1 1cf=M+1 1d1",
     "=M+1 1d3=M+1 1d5=M+1 1d7=M+1 1d9=M+1 1db=M+1 1de=M+1 1e0=M+1 1e2=M+1 1e4=M+1 1e6=M+1 1e8=M+1 1ea=M+1",
     " 1ec=M+1 1ee=M+1 1f1-1f3=M64.7a 1f4=M+1 1f6=M-61 1f7=M-38 1f8=M+1 1fa=M+1 1fc=M+1 1fe=M+1 200=M+1 20",
     "2=M+1 204=M+1 206=M+1 208=M+1 20a=M+1 20c=M+1 20e=M+1 210=M+1 212=M+1 214=M+1 216=M+1 218=M+1 21a=M+",
     "1 21c=M+1 21e=M+1 220=M-82 222=M+1 224=M+1 226=M+1 228=M+1 22a=M+1 22c=M+1 22e=M+1 230=M+1 232=M+1 2",
     "3a=M+2a2b 23b=M+1 23d=M-a3 23e=M+2a28 241=M+1 243=M-c3 244=M+45 245=M+47 246=M+1 248=M+1 24a=M+1 24c",
     "=M+1 24e=M+1 2b0=M-248 2b1=M-4b 2b2=M-248 2b3=M-241 2b4=M-3b 2b5=M-3a 2b6=M-35 2b7=M-240 2b8=M-23f 2",
     "d8=M20.306 2d9=M20.307 2da=M20.30a 2db=M20.328 2dc=M20.303 2dd=M20.30b 2e0=M-7d 2e1=M-275 2e2=M-26f ",
     "2e3=M-26b 2e4=M-4f 340-341=M-40 343=M-30 344=M308.301 345=M+74 34f=I 370=M+1 372=M+1 374=M-bb 376=M+",
     "1 378-379=X 37a=M20.3b9 37e=M-343 37f=M+74 380-383=X 384=M20.301 385=M20.308.301 386=M+26 387=M-2d0 ",
     "388-38a=M+25 38b=X 38c=M+40 38d=X 38e-38f=M+3f 391-3a1=M+20 3a2=X 3a3-3ab=M+20 3c2=D 3cf=M+8 3d0=M-1",
     "e 3d1=M-19 3d2=M-d 3d3=M-6 3d4=M-9 3d5=M-f 3d6=M-16 3d8=M+1 3da=M+1 3dc=M+1 3de=M+1 3e0=M+1 3e2=M+1 ",
     "3e4=M+1 3e6=M+1 3e8=M+1 3ea=M+1 3ec=M+1 3ee=M+1 3f0=M-36 3f1=M-30 3f2=M-2f 3f4=M-3c 3f5=M-40 3f7=M+1",
     " 3f9=M-36 3fa=M+1 3fd-3ff=M-82 400-40f=M+50 410-42f=M+20 460=M+1 462=M+1 464=M+1 466=M+1 468=M+1 46a",
     "=M+1 46c=M+1 46e=M+1 470=M+1 472=M+1 474=M+1 476=M+1 478=M+1 47a=M+1 47c=M+1 47e=M+1 480=M+1 48a=M+1",
     " 48c=M+1 48e=M+1 490=M+1 492=M+1 494=M+1 496=M+1 498=M+1 49a=M+1 49c=M+1 49e=M+1 4a0=M+1 4a2=M+1 4a4",
     "=M+1 4a6=M+1 4a8=M+1 4aa=M+1 4ac=M+1 4ae=M+1 4b0=M+1 4b2=M+1 4b4=M+1 4b6=M+1 4b8=M+1 4ba=M+1 4bc=M+1",
     " 4be=M+1 4c0=M+f 4c1=M+1 4c3=M+1 4c5=M+1 4c7=M+1 4c9=M+1 4cb=M+1 4cd=M+1 4d0=M+1 4d2=M+1 4d4=M+1 4d6",
     "=M+1 4d8=M+1 4da=M+1 4dc=M+1 4de=M+1 4e0=M+1 4e2=M+1 4e4=M+1 4e6=M+1 4e8=M+1 4ea=M+1 4ec=M+1 4ee=M+1",
     " 4f0=M+1 4f2=M+1 4f4=M+1 4f6=M+1 4f8=M+1 4fa=M+1 4fc=M+1 4fe=M+1 500=M+1 502=M+1 504=M+1 506=M+1 508",
     "=M+1 50a=M+1 50c=M+1 50e=M+1 510=M+1 512=M+1 514=M+1 516=M+1 518=M+1 51a=M+1 51c=M+1 51e=M+1 520=M+1",
     " 522=M+1 524=M+1 526=M+1 528=M+1 52a=M+1 52c=M+1 52e=M+1 530=X 531-556=M+30 557-558=X 587=M565.582 5",
     "8b-58c=X 590=X 5c8-5cf=X 5eb-5ee=X 5f5-605=X 61c=X 675=M627.674 676=M648.674 677=M6c7.674 678=M64a.6",
     "74 6dd=X 70e-70f=X 74b-74c=X 7b2-7bf=X 7fb-7fc=X 82e-82f=X 83f=X 85c-85d=X 85f=X 86b-86f=X 890-896=X",
     " 8e2=X 958=M915.93c 959=M916.93c 95a=M917.93c 95b=M91c.93c 95c=M921.93c 95d=M922.93c 95e=M92b.93c 95",
     "f=M92f.93c 984=X 98d-98e=X 991-992=X 9a9=X 9b1=X 9b3-9b5=X 9ba-9bb=X 9c5-9c6=X 9c9-9ca=X 9cf-9d6=X 9",
     "d8-9db=X 9dc=M9a1.9bc 9dd=M9a2.9bc 9de=X 9df=M9af.9bc 9e4-9e5=X 9ff-a00=X a04=X a0b-a0e=X a11-a12=X ",
     "a29=X a31=X a33=Ma32.a3c a34=X a36=Ma38.a3c a37=X a3a-a3b=X a3d=X a43-a46=X a49-a4a=X a4e-a50=X a52-",
     "a58=X a59=Ma16.a3c a5a=Ma17.a3c a5b=Ma1c.a3c a5d=X a5e=Ma2b.a3c a5f-a65=X a77-a80=X a84=X a8e=X a92=",
     "X aa9=X ab1=X ab4=X aba-abb=X ac6=X aca=X ace-acf=X ad1-adf=X ae4-ae5=X af2-af8=X b00=X b04=X b0d-b0",
     "e=X b11-b12=X b29=X b31=X b34=X b3a-b3b=X b45-b46=X b49-b4a=X b4e-b54=X b58-b5b=X b5c=Mb21.b3c b5d=M",
     "b22.b3c b5e=X b64-b65=X b78-b81=X b84=X b8b-b8d=X b91=X b96-b98=X b9b=X b9d=X ba0-ba2=X ba5-ba7=X ba",
     "b-bad=X bba-bbd=X bc3-bc5=X bc9=X bce-bcf=X bd1-bd6=X bd8-be5=X bfb-bff=X c0d=X c11=X c29=X c3a-c3b=",
     "X c45=X c49=X c4e-c54=X c57=X c5b=X c5e-c5f=X c64-c65=X c70-c76=X c8d=X c91=X ca9=X cb4=X cba-cbb=X ",
     "cc5=X cc9=X cce-cd4=X cd7-cdb=X cdf=X ce4-ce5=X cf0=X cf4-cff=X d0d=X d11=X d45=X d49=X d50-d53=X d6",
     "4-d65=X d80=X d84=X d97-d99=X db2=X dbc=X dbe-dbf=X dc7-dc9=X dcb-dce=X dd5=X dd7=X de0-de5=X df0-df",
     "1=X df5-e00=X e33=Me4d.e32 e3b-e3e=X e5c-e80=X e83=X e85=X e8b=X ea4=X ea6=X eb3=Mecd.eb2 ebe-ebf=X ",
     "ec5=X ec7=X ecf=X eda-edb=X edc=Meab.e99 edd=Meab.ea1 ee0-eff=X f0c=M-1 f43=Mf42.fb7 f48=X f4d=Mf4c.",
     "fb7 f52=Mf51.fb7 f57=Mf56.fb7 f5c=Mf5b.fb7 f69=Mf40.fb5 f6d-f70=X f73=Mf71.f72 f75=Mf71.f74 f76=Mfb2",
     ".f80 f77=Mfb2.f71.f80 f78=Mfb3.f80 f79=Mfb3.f71.f80 f81=Mf71.f80 f93=Mf92.fb7 f98=X f9d=Mf9c.fb7 fa2",
     "=Mfa1.fb7 fa7=Mfa6.fb7 fac=Mfab.fb7 fb9=Mf90.fb5 fbd=X fcd=X fdb-fff=X 10a0-10c5=M+1c60 10c6=X 10c7=",
     "M+1c60 10c8-10cc=X 10cd=M+1c60 10ce-10cf=X 10fc=M-20 115f-1160=I 1249=X 124e-124f=X 1257=X 1259=X 12",
     "5e-125f=X 1289=X 128e-128f=X 12b1=X 12b6-12b7=X 12bf=X 12c1=X 12c6-12c7=X 12d7=X 1311=X 1316-1317=X ",
     "135b-135c=X 137d-137f=X 139a-139f=X 13f6-13f7=X 13f8-13fd=M-8 13fe-13ff=X 1680=X 169d-169f=X 16f9-16",
     "ff=X 1716-171e=X 1737-173f=X 1754-175f=X 176d=X 1771=X 1774-177f=X 17b4-17b5=I 17de-17df=X 17ea-17ef",
     "=X 17fa-17ff=X 180b-180f=I 181a-181f=X 1879-187f=X 18ab-18af=X 18f6-18ff=X 191f=X 192c-192f=X 193c-1",
     "93f=X 1941-1943=X 196e-196f=X 1975-197f=X 19ac-19af=X 19ca-19cf=X 19db-19dd=X 1a1c-1a1d=X 1a5f=X 1a7",
     "d-1a7e=X 1a8a-1a8f=X 1a9a-1a9f=X 1aae-1aaf=X 1ade-1adf=X 1aec-1aff=X 1b4d=X 1bf4-1bfb=X 1c38-1c3a=X ",
     "1c4a-1c4c=X 1c80=M-184e 1c81=M-184d 1c82=M-1844 1c83=M-1842 1c84-1c85=M442 1c86=M-183c 1c87=M-1824 1",
     "c88=M+89c3 1c89=M+1 1c8b-1c8f=X 1c90-1cba=M-bc0 1cbb-1cbc=X 1cbd-1cbf=M-bc0 1cc8-1ccf=X 1cfb-1cff=X ",
     "1d2c=M-1ccb 1d2d=M-1c47 1d2e=M-1ccc 1d30-1d31=M-1ccc 1d32=M-1b55 1d33-1d3a=M-1ccc 1d3c=M-1ccd 1d3d=M",
     "-1b1a 1d3e=M-1cce 1d3f=M-1ccd 1d40-1d41=M-1ccc 1d42=M-1ccb 1d43=M-1ce2 1d44-1d45=M-1af4 1d46=M-44 1d",
     "47=M-1ce5 1d48-1d49=M-1ce4 1d4a=M-1af1 1d4b-1d4c=M-1af0 1d4d=M-1ce6 1d4f=M-1ce4 1d50=M-1ce3 1d51=M-1",
     "c06 1d52=M-1ce3 1d53=M-1aff 1d54-1d55=M-3e 1d56=M-1ce6 1d57-1d58=M-1ce3 1d59=M-3c 1d5a=M-1aeb 1d5b=M",
     "-1ce5 1d5c=M-37 1d5d-1d5f=M-19ab 1d60-1d61=M-199a 1d62=M-1cf9 1d63=M-1cf1 1d64-1d65=M-1cef 1d66-1d67",
     "=M-19b4 1d68=M-19a7 1d69-1d6a=M-19a3 1d78=M-193b 1d9b=M-1b49 1d9c=M-1d39 1d9d=M-1b48 1d9e=M-1cae 1d9",
     "f=M-1b43 1da0=M-1d3a 1da1=M-1b42 1da2=M-1b41 1da3=M-1b3e 1da4-1da6=M-1b3c 1da7=M-2c 1da8=M-1b0b 1da9",
     "=M-1b3c 1daa=M-25 1dab=M-1b0c 1dac=M-1b3b 1dad=M-1b3d 1dae-1db1=M-1b3c 1db2=M-1b3a 1db3-1db4=M-1b31 ",
     "1db5=M-1c0a 1db6-1db7=M-1b2d 1db8=M-9c 1db9-1dba=M-1b2e 1dbb=M-1d41 1dbc-1dbe=M-1b2c 1dbf=M-1a07 1e0",
     "0=M+1 1e02=M+1 1e04=M+1 1e06=M+1 1e08=M+1 1e0a=M+1 1e0c=M+1 1e0e=M+1 1e10=M+1 1e12=M+1 1e14=M+1 1e16",
     "=M+1 1e18=M+1 1e1a=M+1 1e1c=M+1 1e1e=M+1 1e20=M+1 1e22=M+1 1e24=M+1 1e26=M+1 1e28=M+1 1e2a=M+1 1e2c=",
     "M+1 1e2e=M+1 1e30=M+1 1e32=M+1 1e34=M+1 1e36=M+1 1e38=M+1 1e3a=M+1 1e3c=M+1 1e3e=M+1 1e40=M+1 1e42=M",
     "+1 1e44=M+1 1e46=M+1 1e48=M+1 1e4a=M+1 1e4c=M+1 1e4e=M+1 1e50=M+1 1e52=M+1 1e54=M+1 1e56=M+1 1e58=M+",
     "1 1e5a=M+1 1e5c=M+1 1e5e=M+1 1e60=M+1 1e62=M+1 1e64=M+1 1e66=M+1 1e68=M+1 1e6a=M+1 1e6c=M+1 1e6e=M+1",
     " 1e70=M+1 1e72=M+1 1e74=M+1 1e76=M+1 1e78=M+1 1e7a=M+1 1e7c=M+1 1e7e=M+1 1e80=M+1 1e82=M+1 1e84=M+1 ",
     "1e86=M+1 1e88=M+1 1e8a=M+1 1e8c=M+1 1e8e=M+1 1e90=M+1 1e92=M+1 1e94=M+1 1e9a=M61.2be 1e9b=M-3a 1e9e=",
     "M-1dbf 1ea0=M+1 1ea2=M+1 1ea4=M+1 1ea6=M+1 1ea8=M+1 1eaa=M+1 1eac=M+1 1eae=M+1 1eb0=M+1 1eb2=M+1 1eb",
     "4=M+1 1eb6=M+1 1eb8=M+1 1eba=M+1 1ebc=M+1 1ebe=M+1 1ec0=M+1 1ec2=M+1 1ec4=M+1 1ec6=M+1 1ec8=M+1 1eca",
     "=M+1 1ecc=M+1 1ece=M+1 1ed0=M+1 1ed2=M+1 1ed4=M+1 1ed6=M+1 1ed8=M+1 1eda=M+1 1edc=M+1 1ede=M+1 1ee0=",
     "M+1 1ee2=M+1 1ee4=M+1 1ee6=M+1 1ee8=M+1 1eea=M+1 1eec=M+1 1eee=M+1 1ef0=M+1 1ef2=M+1 1ef4=M+1 1ef6=M",
     "+1 1ef8=M+1 1efa=M+1 1efc=M+1 1efe=M+1 1f08-1f0f=M-8 1f16-1f17=X 1f18-1f1d=M-8 1f1e-1f1f=X 1f28-1f2f",
     "=M-8 1f38-1f3f=M-8 1f46-1f47=X 1f48-1f4d=M-8 1f4e-1f4f=X 1f58=X 1f59=M-8 1f5a=X 1f5b=M-8 1f5c=X 1f5d",
     "=M-8 1f5e=X 1f5f=M-8 1f68-1f6f=M-8 1f71=M-1bc5 1f73=M-1bc6 1f75=M-1bc7 1f77=M-1bc8 1f79=M-1bad 1f7b=",
     "M-1bae 1f7d=M-1baf 1f7e-1f7f=X 1f80=M1f00.3b9 1f81=M1f01.3b9 1f82=M1f02.3b9 1f83=M1f03.3b9 1f84=M1f0",
     "4.3b9 1f85=M1f05.3b9 1f86=M1f06.3b9 1f87=M1f07.3b9 1f88=M1f00.3b9 1f89=M1f01.3b9 1f8a=M1f02.3b9 1f8b",
     "=M1f03.3b9 1f8c=M1f04.3b9 1f8d=M1f05.3b9 1f8e=M1f06.3b9 1f8f=M1f07.3b9 1f90=M1f20.3b9 1f91=M1f21.3b9",
     " 1f92=M1f22.3b9 1f93=M1f23.3b9 1f94=M1f24.3b9 1f95=M1f25.3b9 1f96=M1f26.3b9 1f97=M1f27.3b9 1f98=M1f2",
     "0.3b9 1f99=M1f21.3b9 1f9a=M1f22.3b9 1f9b=M1f23.3b9 1f9c=M1f24.3b9 1f9d=M1f25.3b9 1f9e=M1f26.3b9 1f9f",
     "=M1f27.3b9 1fa0=M1f60.3b9 1fa1=M1f61.3b9 1fa2=M1f62.3b9 1fa3=M1f63.3b9 1fa4=M1f64.3b9 1fa5=M1f65.3b9",
     " 1fa6=M1f66.3b9 1fa7=M1f67.3b9 1fa8=M1f60.3b9 1fa9=M1f61.3b9 1faa=M1f62.3b9 1fab=M1f63.3b9 1fac=M1f6",
     "4.3b9 1fad=M1f65.3b9 1fae=M1f66.3b9 1faf=M1f67.3b9 1fb2=M1f70.3b9 1fb3=M3b1.3b9 1fb4=M3ac.3b9 1fb5=X",
     " 1fb7=M1fb6.3b9 1fb8-1fb9=M-8 1fba=M-4a 1fbb=M-1c0f 1fbc=M3b1.3b9 1fbd=M20.313 1fbe=M-1c05 1fbf=M20.",
     "313 1fc0=M20.342 1fc1=M20.308.342 1fc2=M1f74.3b9 1fc3=M3b7.3b9 1fc4=M3ae.3b9 1fc5=X 1fc7=M1fc6.3b9 1",
     "fc8=M-56 1fc9=M-1c1c 1fca=M-56 1fcb=M-1c1d 1fcc=M3b7.3b9 1fcd=M20.313.300 1fce=M20.313.301 1fcf=M20.",
     "313.342 1fd3=M-1c43 1fd4-1fd5=X 1fd8-1fd9=M-8 1fda=M-64 1fdb=M-1c2c 1fdc=X 1fdd=M20.314.300 1fde=M20",
     ".314.301 1fdf=M20.314.342 1fe3=M-1c33 1fe8-1fe9=M-8 1fea=M-70 1feb=M-1c1e 1fec=M-7 1fed=M20.308.300 ",
     "1fee=M20.308.301 1fef=M-1f8f 1ff0-1ff1=X 1ff2=M1f7c.3b9 1ff3=M3c9.3b9 1ff4=M3ce.3b9 1ff5=X 1ff7=M1ff",
     "6.3b9 1ff8=M-80 1ff9=M-1c2d 1ffa=M-7e 1ffb=M-1c2d 1ffc=M3c9.3b9 1ffd=M20.301 1ffe=M20.314 1fff=X 200",
     "0-200a=M20 200b=I 200c-200d=D 200e-200f=X 2011=M-1 2017=M20.333 2024-2026=X 2028-202e=X 202f=M-200f ",
     "2033=M2032.2032 2034=M2032.2032.2032 2036=M2035.2035 2037=M2035.2035.2035 203c=M21.21 203e=M20.305 2",
     "047=M3f.3f 2048=M3f.21 2049=M21.3f 2057=M2032.2032.2032.2032 205f=M-203f 2060-2064=I 2065-2069=X 206",
     "a-206f=I 2070=M-2040 2071=M-2008 2072-2073=X 2074-2079=M-2040 207a=M-204f 207b=M+197 207c=M-203f 207",
     "d-207e=M-2055 207f=M-2011 2080-2089=M-2050 208a=M-205f 208b=M+187 208c=M-204f 208d-208e=M-2065 208f=",
     "X 2090=M-202f 2091=M-202c 2092=M-2023 2093=M-201b 2094=M-1e3b 2095=M-202d 2096-2099=M-202b 209a=M-20",
     "2a 209b-209c=M-2028 209d-209f=X 20a8=M72.73 20c2-20cf=X 20f1-20ff=X 2100=M61.2f.63 2101=M61.2f.73 21",
     "02=M-209f 2103=Mb0.63 2105=M63.2f.6f 2106=M63.2f.75 2107=M-1eac 2109=Mb0.66 210a=M-20a3 210b-210e=M6",
     "8 210f=M-1fe8 2110-2111=M69 2112-2113=M6c 2115=M-20a7 2116=M6e.6f 2119-211a=M-20a9 211b-211d=M72 212",
     "0=M73.6d 2121=M74.65.6c 2122=M74.6d 2124=M-20aa 2126=M-1d5d 2128=M-20ae 212a=M-20bf 212b=M-2046 212c",
     "-212d=M-20ca 212f-2130=M65 2131=M-20cb 2132=M+1c 2133=M-20c6 2134=M-20c5 2135-2138=M-1b65 2139=M-20d",
     "0 213b=M66.61.78 213c=M-1d7c 213d-213e=M3b3 213f=M-1d7f 2140=M+d1 2145-2146=M64 2147=M-20e2 2148-214",
     "9=M-20df 2150=M31.2044.37 2151=M31.2044.39 2152=M31.2044.31.30 2153=M31.2044.33 2154=M32.2044.33 215",
     "5=M31.2044.35 2156=M32.2044.35 2157=M33.2044.35 2158=M34.2044.35 2159=M31.2044.36 215a=M35.2044.36 2",
     "15b=M31.2044.38 215c=M33.2044.38 215d=M35.2044.38 215e=M37.2044.38 215f=M31.2044 2160=M-20f7 2161=M6",
     "9.69 2162=M69.69.69 2163=M69.76 2164=M-20ee 2165=M76.69 2166=M76.69.69 2167=M76.69.69.69 2168=M69.78",
     " 2169=M-20f1 216a=M78.69 216b=M78.69.69 216c=M-2100 216d-216e=M-210a 216f=M-2102 2170=M-2107 2171=M6",
     "9.69 2172=M69.69.69 2173=M69.76 2174=M-20fe 2175=M76.69 2176=M76.69.69 2177=M76.69.69.69 2178=M69.78",
     " 2179=M-2101 217a=M78.69 217b=M78.69.69 217c=M-2110 217d-217e=M-211a 217f=M-2112 2183=M+1 2189=M30.2",
     "044.33 218c-218f=X 222c=M222b.222b 222d=M222b.222b.222b 222f=M222e.222e 2230=M222e.222e.222e 2329-23",
     "2a=M+cdf 242a-243f=X 244b-245f=X 2460-2468=M-242f 2469=M31.30 246a=M31.31 246b=M31.32 246c=M31.33 24",
     "6d=M31.34 246e=M31.35 246f=M31.36 2470=M31.37 2471=M31.38 2472=M31.39 2473=M32.30 2474=M28.31.29 247",
     "5=M28.32.29 2476=M28.33.29 2477=M28.34.29 2478=M28.35.29 2479=M28.36.29 247a=M28.37.29 247b=M28.38.2",
     "9 247c=M28.39.29 247d=M28.31.30.29 247e=M28.31.31.29 247f=M28.31.32.29 2480=M28.31.33.29 2481=M28.31",
     ".34.29 2482=M28.31.35.29 2483=M28.31.36.29 2484=M28.31.37.29 2485=M28.31.38.29 2486=M28.31.39.29 248",
     "7=M28.32.30.29 2488-249b=X 249c=M28.61.29 249d=M28.62.29 249e=M28.63.29 249f=M28.64.29 24a0=M28.65.2",
     "9 24a1=M28.66.29 24a2=M28.67.29 24a3=M28.68.29 24a4=M28.69.29 24a5=M28.6a.29 24a6=M28.6b.29 24a7=M28",
     ".6c.29 24a8=M28.6d.29 24a9=M28.6e.29 24aa=M28.6f.29 24ab=M28.70.29 24ac=M28.71.29 24ad=M28.72.29 24a",
     "e=M28.73.29 24af=M28.74.29 24b0=M28.75.29 24b1=M28.76.29 24b2=M28.77.29 24b3=M28.78.29 24b4=M28.79.2",
     "9 24b5=M28.7a.29 24b6-24cf=M-2455 24d0-24e9=M-246f 24ea=M-24ba 2a0c=M222b.222b.222b.222b 2a74=M3a.3a",
     ".3d 2a75=M3d.3d 2a76=M3d.3d.3d 2adc=M2add.338 2b74-2b75=X 2c00-2c2f=M+30 2c60=M+1 2c62=M-29f7 2c63=M",
     "-ee6 2c64=M-29e7 2c67=M+1 2c69=M+1 2c6b=M+1 2c6d=M-2a1c 2c6e=M-29fd 2c6f=M-2a1f 2c70=M-2a1e 2c72=M+1",
     " 2c75=M+1 2c7c=M-2c12 2c7d=M-2c07 2c7e-2c7f=M-2a3f 2c80=M+1 2c82=M+1 2c84=M+1 2c86=M+1 2c88=M+1 2c8a",
     "=M+1 2c8c=M+1 2c8e=M+1 2c90=M+1 2c92=M+1 2c94=M+1 2c96=M+1 2c98=M+1 2c9a=M+1 2c9c=M+1 2c9e=M+1 2ca0=",
     "M+1 2ca2=M+1 2ca4=M+1 2ca6=M+1 2ca8=M+1 2caa=M+1 2cac=M+1 2cae=M+1 2cb0=M+1 2cb2=M+1 2cb4=M+1 2cb6=M",
     "+1 2cb8=M+1 2cba=M+1 2cbc=M+1 2cbe=M+1 2cc0=M+1 2cc2=M+1 2cc4=M+1 2cc6=M+1 2cc8=M+1 2cca=M+1 2ccc=M+",
     "1 2cce=M+1 2cd0=M+1 2cd2=M+1 2cd4=M+1 2cd6=M+1 2cd8=M+1 2cda=M+1 2cdc=M+1 2cde=M+1 2ce0=M+1 2ce2=M+1",
     " 2ceb=M+1 2ced=M+1 2cf2=M+1 2cf4-2cf8=X 2d26=X 2d28-2d2c=X 2d2e-2d2f=X 2d68-2d6e=X 2d6f=M-e 2d71-2d7",
     "e=X 2d97-2d9f=X 2da7=X 2daf=X 2db7=X 2dbf=X 2dc7=X 2dcf=X 2dd7=X 2ddf=X 2e5e-2e7f=X 2e9a=X 2e9f=M+3d",
     "2e 2ef3=M+70ac 2ef4-2eff=X 2f00=M+1f00 2f01=M+1f27 2f02=M+1f34 2f03=M+1f3c 2f04=M+1f55 2f05=M+1f80 2",
     "f06=M+1f86 2f07=M+1f99 2f08=M+1fb2 2f09=M+2236 2f0a=M+225b 2f0b=M+2260 2f0c=M+2276 2f0d=M+2289 2f0e=",
     "M+229d 2f0f=M+22d1 2f10=M+22e5 2f11=M+22ef 2f12=M+2389 2f13=M+23e6 2f14=M+2401 2f15=M+2405 2f16=M+24",
     "22 2f17=M+242a 2f18=M+2444 2f19=M+2450 2f1a=M+2468 2f1b=M+249b 2f1c=M+24ac 2f1d=M+24c6 2f1e=M+27b9 2",
     "f1f=M+2800 2f20=M+29cb 2f21=M+29e1 2f22=M+29e8 2f23=M+29f2 2f24=M+2a03 2f25=M+2a4e 2f26=M+2c2a 2f27=",
     "M+2c59 2f28=M+2cd0 2f29=M+2ce6 2f2a=M+2cf8 2f2b=M+2d0d 2f2c=M+2d42 2f2d=M+2d44 2f2e=M+2ead 2f2f=M+2e",
     "b6 2f30=M+2ec1 2f31=M+2ecd 2f32=M+2f40 2f33=M+2f47 2f34=M+2f4b 2f35=M+2fbf 2f36=M+2fc8 2f37=M+2fd4 2",
     "f38=M+2fdb 2f39=M+3017 2f3a=M+3027 2f3b=M+3038 2f3c=M+3087 2f3d=M+32cb 2f3e=M+32f8 2f3f=M+330c 2f40=",
     "M+35ef 2f41=M+35f3 2f42=M+3645 2f43=M+3654 2f44=M+3660 2f45=M+3674 2f46=M+369a 2f47=M+369e 2f48=M+37",
     "a8 2f49=M+37bf 2f4a=M+37de 2f4b=M+3bd5 2f4c=M+3c16 2f4d=M+3c2c 2f4e=M+3c65 2f4f=M+3c7c 2f50=M+3c84 2",
     "f51=M+3c8a 2f52=M+3cbd 2f53=M+3cc1 2f54=M+3ce0 2f55=M+4116 2f56=M+42d4 2f57=M+42df 2f58=M+42e3 2f59=",
     "M+42e6 2f5a=M+42ed 2f5b=M+42fe 2f5c=M+42ff 2f5d=M+434f 2f5e=M+4426 2f5f=M+442a 2f60=M+457c 2f61=M+45",
     "85 2f62=M+45b6 2f63=M+45bc 2f64=M+45c4 2f65=M+45cb 2f66=M+4625 2f67=M+462b 2f68=M+470e 2f69=M+4714 2",
     "f6a=M+4744 2f6b=M+4754 2f6c=M+4782 2f6d=M+486e 2f6e=M+4874 2f6f=M+4884 2f70=M+49ca 2f71=M+4a47 2f72=",
     "M+4a4c 2f73=M+4b01 2f74=M+4b57 2f75=M+4b84 2f76=M+4cfd 2f77=M+4d81 2f78=M+4fbe 2f79=M+4fd8 2f7a=M+50",
     "10 2f7b=M+5042 2f7c=M+5085 2f7d=M+508f 2f7e=M+5094 2f7f=M+50b4 2f80=M+50ff 2f81=M+5108 2f82=M+5261 2",
     "f83=M+5267 2f84=M+526f 2f85=M+5277 2f86=M+5286 2f87=M+5294 2f88=M+5297 2f89=M+52e5 2f8a=M+52e8 2f8b=",
     "M+52ed 2f8c=M+56c1 2f8d=M+56de 2f8e=M+58b2 2f8f=M+58bd 2f90=M+58d3 2f91=M+59ed 2f92=M+59f9 2f93=M+5a",
     "3f 2f94=M+5a6c 2f95=M+5ca2 2f96=M+5cb0 2f97=M+5cbe 2f98=M+5ce0 2f99=M+5d04 2f9a=M+5dca 2f9b=M+5dd5 2",
     "f9c=M+5e17 2f9d=M+5f0e 2f9e=M+5f2c 2f9f=M+5ffc 2fa0=M+6010 2fa1=M+6014 2fa2=M+60ef 2fa3=M+61a6 2fa4=",
     "M+6222 2fa5=M+6227 2fa6=M+622b 2fa7=M+65d0 2fa8=M+65d8 2fa9=M+6673 2faa=M+670c 2fab=M+670e 2fac=M+67",
     "3c 2fad=M+67a4 2fae=M+67b0 2faf=M+67b3 2fb0=M+67b9 2fb1=M+681a 2fb2=M+683b 2fb3=M+6840 2fb4=M+684d 2",
     "fb5=M+68f3 2fb6=M+6925 2fb7=M+6928 2fb8=M+69de 2fb9=M+69e0 2fba=M+69f2 2fbb=M+6aed 2fbc=M+6b1c 2fbd=",
     "M+6b22 2fbe=M+6b67 2fbf=M+6b70 2fc0=M+6b72 2fc1=M+6b7b 2fc2=M+6b98 2fc3=M+6d22 2fc4=M+6eb1 2fc5=M+6e",
     "ba 2fc6=M+6edf 2fc7=M+6ef4 2fc8=M+6efb 2fc9=M+6f04 2fca=M+6f07 2fcb=M+6f2e 2fcc=M+6f31 2fcd=M+6f41 2",
     "fce=M+6f45 2fcf=M+6f51 2fd0=M+6f6b 2fd1=M+6f79 2fd2=M+6f80 2fd3=M+6fba 2fd4=M+6fc8 2fd5=M+6fcb 2fd6-",
     "2fff=X 3000=M-2fe0 3002=M-2fd4 3036=M-24 3038=M+2309 3039-303a=M+230b 3040=X 3097-3098=X 309b=M20.30",
     "99 309c=M20.309a 309f=M3088.308a 30ff=M30b3.30c8 3100-3104=X 3130=X 3131-3132=M-2031 3133=M-1f89 313",
     "4=M-2032 3135-3136=M-1f89 3137-3139=M-2034 313a-313f=M-1f8a 3140=M-2026 3141-3143=M-203b 3144=M-2023",
     " 3145-314e=M-203c 314f-3163=M-1fee 3164=I 3165-3166=M-2051 3167-3168=M-1fa0 3169=M-1f9d 316a=M-1f9c ",
     "316b=M-1f98 316c=M-1f95 316d=M-1f94 316e=M-2052 316f=M-1f92 3170=M-1f91 3171-3172=M-2054 3173=M-2053",
     " 3174-3175=M-2052 3176=M-204f 3177=M-204e 3178-317c=M-204d 317d=M-204b 317e=M-2048 317f=M-203f 3180=",
     "M-2039 3181=M-2035 3182-3183=M-1f91 3184-3186=M-202d 3187-3188=M-2003 3189=M-2001 318a-318b=M-1ff9 3",
     "18c=M-1ff8 318d=M-1fef 318e=M-1fed 318f=X 3192=M+1c6e 3193=M+1cf9 3194=M+1c75 3195=M+2546 3196=M+1c7",
     "4 3197=M+1c96 3198=M+1c73 3199=M+4399 319a=M+1cbf 319b=M+1c7e 319c=M+1c65 319d=M+278c 319e=M+2592 31",
     "9f=M+1d1b 31e6-31ef=X 3200=M28.1100.29 3201=M28.1102.29 3202=M28.1103.29 3203=M28.1105.29 3204=M28.1",
     "106.29 3205=M28.1107.29 3206=M28.1109.29 3207=M28.110b.29 3208=M28.110c.29 3209=M28.110e.29 320a=M28",
     ".110f.29 320b=M28.1110.29 320c=M28.1111.29 320d=M28.1112.29 320e=M28.ac00.29 320f=M28.b098.29 3210=M",
     "28.b2e4.29 3211=M28.b77c.29 3212=M28.b9c8.29 3213=M28.bc14.29 3214=M28.c0ac.29 3215=M28.c544.29 3216",
     "=M28.c790.29 3217=M28.cc28.29 3218=M28.ce74.29 3219=M28.d0c0.29 321a=M28.d30c.29 321b=M28.d558.29 32",
     "1c=M28.c8fc.29 321d=M28.c624.c804.29 321e=M28.c624.d6c4.29 321f=X 3220=M28.4e00.29 3221=M28.4e8c.29 ",
     "3222=M28.4e09.29 3223=M28.56db.29 3224=M28.4e94.29 3225=M28.516d.29 3226=M28.4e03.29 3227=M28.516b.2",
     "9 3228=M28.4e5d.29 3229=M28.5341.29 322a=M28.6708.29 322b=M28.706b.29 322c=M28.6c34.29 322d=M28.6728",
     ".29 322e=M28.91d1.29 322f=M28.571f.29 3230=M28.65e5.29 3231=M28.682a.29 3232=M28.6709.29 3233=M28.79",
     "3e.29 3234=M28.540d.29 3235=M28.7279.29 3236=M28.8ca1.29 3237=M28.795d.29 3238=M28.52b4.29 3239=M28.",
     "4ee3.29 323a=M28.547c.29 323b=M28.5b66.29 323c=M28.76e3.29 323d=M28.4f01.29 323e=M28.8cc7.29 323f=M2",
     "8.5354.29 3240=M28.796d.29 3241=M28.4f11.29 3242=M28.81ea.29 3243=M28.81f3.29 3244=M+230b 3245=M+2c3",
     "7 3246=M+3341 3247=M+4948 3250=M70.74.65 3251=M32.31 3252=M32.32 3253=M32.33 3254=M32.34 3255=M32.35",
     " 3256=M32.36 3257=M32.37 3258=M32.38 3259=M32.39 325a=M33.30 325b=M33.31 325c=M33.32 325d=M33.33 325",
     "e=M33.34 325f=M33.35 3260=M-2160 3261-3262=M-215f 3263-3265=M-215e 3266=M-215d 3267-3268=M-215c 3269",
     "-326d=M-215b 326e=M+7992 326f=M+7e29 3270=M+8074 3271=M+850b 3272=M+8756 3273=M+89a1 3274=M+8e38 327",
     "5=M+92cf 3276=M+951a 3277=M+99b1 3278=M+9bfc 3279=M+9e47 327a=M+a092 327b=M+a2dd 327c=Mcc38.ace0 327",
     "d=Mc8fc.c758 327e=M+9432 3280=M+1b80 3281=M+1c0b 3282=M+1b87 3283=M+2458 3284=M+1c10 3285=M+1ee8 328",
     "6=M+1b7d 3287=M+1ee4 3288=M+1bd5 3289=M+20b8 328a=M+347e 328b=M+3de0 328c=M+39a8 328d=M+349b 328e=M+",
     "5f43 328f=M+2490 3290=M+3355 3291=M+3599 3292=M+3477 3293=M+46ab 3294=M+2179 3295=M+3fe4 3296=M+5a0b",
     " 3297=M+46c6 3298=M+201c 3299=M+473f 329a=M+429d 329b=M+26d8 329c=M+5dcd 329d=M+1e8d 329e=M+20d2 329",
     "f=M+3a49 32a0=M+6565 32a1=M+1c70 32a2=M+1ef7 32a3=M+38c0 32a4=M+1b66 32a5=M+1b88 32a6=M+1b65 32a7=M+",
     "2b3f 32a8=M+214b 32a9=M+2092 32aa=M+28ed 32ab=M+28bb 32ac=M+4437 32ad=M+1c54 32ae=M+5a19 32af=M+20a5",
     " 32b0=M+266c 32b1=M33.36 32b2=M33.37 32b3=M33.38 32b4=M33.39 32b5=M34.30 32b6=M34.31 32b7=M34.32 32b",
     "8=M34.33 32b9=M34.34 32ba=M34.35 32bb=M34.36 32bc=M34.37 32bd=M34.38 32be=M34.39 32bf=M35.30 32c0=M3",
     "1.6708 32c1=M32.6708 32c2=M33.6708 32c3=M34.6708 32c4=M35.6708 32c5=M36.6708 32c6=M37.6708 32c7=M38.",
     "6708 32c8=M39.6708 32c9=M31.30.6708 32ca=M31.31.6708 32cb=M31.32.6708 32cc=M68.67 32cd=M65.72.67 32c",
     "e=M65.76 32cf=M6c.74.64 32d0=M-22e 32d1=M-22d 32d2=M-22c 32d3=M-22b 32d4-32d5=M-22a 32d6=M-229 32d7=",
     "M-228 32d8=M-227 32d9=M-226 32da=M-225 32db=M-224 32dc=M-223 32dd=M-222 32de=M-221 32df=M-220 32e0=M",
     "-21f 32e1=M-21d 32e2=M-21c 32e3=M-21b 32e4-32e9=M-21a 32ea=M-218 32eb=M-216 32ec=M-214 32ed=M-212 32",
     "ee-32f2=M-210 32f3=M-20f 32f4=M-20e 32f5-32fa=M-20d 32fb-32fe=M-20c 32ff=M4ee4.548c 3300=M30a2.30d1.",
     "30fc.30c8 3301=M30a2.30eb.30d5.30a1 3302=M30a2.30f3.30da.30a2 3303=M30a2.30fc.30eb 3304=M30a4.30cb.3",
     "0f3.30b0 3305=M30a4.30f3.30c1 3306=M30a6.30a9.30f3 3307=M30a8.30b9.30af.30fc.30c9 3308=M30a8.30fc.30",
     "ab.30fc 3309=M30aa.30f3.30b9 330a=M30aa.30fc.30e0 330b=M30ab.30a4.30ea 330c=M30ab.30e9.30c3.30c8 330",
     "d=M30ab.30ed.30ea.30fc 330e=M30ac.30ed.30f3 330f=M30ac.30f3.30de 3310=M30ae.30ac 3311=M30ae.30cb.30f",
     "c 3312=M30ad.30e5.30ea.30fc 3313=M30ae.30eb.30c0.30fc 3314=M30ad.30ed 3315=M30ad.30ed.30b0.30e9.30e0",
     " 3316=M30ad.30ed.30e1.30fc.30c8.30eb 3317=M30ad.30ed.30ef.30c3.30c8 3318=M30b0.30e9.30e0 3319=M30b0.",
     "30e9.30e0.30c8.30f3 331a=M30af.30eb.30bc.30a4.30ed 331b=M30af.30ed.30fc.30cd 331c=M30b1.30fc.30b9 33",
     "1d=M30b3.30eb.30ca 331e=M30b3.30fc.30dd 331f=M30b5.30a4.30af.30eb 3320=M30b5.30f3.30c1.30fc.30e0 332",
     "1=M30b7.30ea.30f3.30b0 3322=M30bb.30f3.30c1 3323=M30bb.30f3.30c8 3324=M30c0.30fc.30b9 3325=M30c7.30b",
     "7 3326=M30c9.30eb 3327=M30c8.30f3 3328=M30ca.30ce 3329=M30ce.30c3.30c8 332a=M30cf.30a4.30c4 332b=M30",
     "d1.30fc.30bb.30f3.30c8 332c=M30d1.30fc.30c4 332d=M30d0.30fc.30ec.30eb 332e=M30d4.30a2.30b9.30c8.30eb",
     " 332f=M30d4.30af.30eb 3330=M30d4.30b3 3331=M30d3.30eb 3332=M30d5.30a1.30e9.30c3.30c9 3333=M30d5.30a3",
     ".30fc.30c8 3334=M30d6.30c3.30b7.30a7.30eb 3335=M30d5.30e9.30f3 3336=M30d8.30af.30bf.30fc.30eb 3337=M",
     "30da.30bd 3338=M30da.30cb.30d2 3339=M30d8.30eb.30c4 333a=M30da.30f3.30b9 333b=M30da.30fc.30b8 333c=M",
     "30d9.30fc.30bf 333d=M30dd.30a4.30f3.30c8 333e=M30dc.30eb.30c8 333f=M30db.30f3 3340=M30dd.30f3.30c9 3",
     "341=M30db.30fc.30eb 3342=M30db.30fc.30f3 3343=M30de.30a4.30af.30ed 3344=M30de.30a4.30eb 3345=M30de.3",
     "0c3.30cf 3346=M30de.30eb.30af 3347=M30de.30f3.30b7.30e7.30f3 3348=M30df.30af.30ed.30f3 3349=M30df.30",
     "ea 334a=M30df.30ea.30d0.30fc.30eb 334b=M30e1.30ac 334c=M30e1.30ac.30c8.30f3 334d=M30e1.30fc.30c8.30e",
     "b 334e=M30e4.30fc.30c9 334f=M30e4.30fc.30eb 3350=M30e6.30a2.30f3 3351=M30ea.30c3.30c8.30eb 3352=M30e",
     "a.30e9 3353=M30eb.30d4.30fc 3354=M30eb.30fc.30d6.30eb 3355=M30ec.30e0 3356=M30ec.30f3.30c8.30b2.30f3",
     " 3357=M30ef.30c3.30c8 3358=M30.70b9 3359=M31.70b9 335a=M32.70b9 335b=M33.70b9 335c=M34.70b9 335d=M35",
     ".70b9 335e=M36.70b9 335f=M37.70b9 3360=M38.70b9 3361=M39.70b9 3362=M31.30.70b9 3363=M31.31.70b9 3364",
     "=M31.32.70b9 3365=M31.33.70b9 3366=M31.34.70b9 3367=M31.35.70b9 3368=M31.36.70b9 3369=M31.37.70b9 33",
     "6a=M31.38.70b9 336b=M31.39.70b9 336c=M32.30.70b9 336d=M32.31.70b9 336e=M32.32.70b9 336f=M32.33.70b9 ",
     "3370=M32.34.70b9 3371=M68.70.61 3372=M64.61 3373=M61.75 3374=M62.61.72 3375=M6f.76 3376=M70.63 3377=",
     "M64.6d 3378=M64.6d.32 3379=M64.6d.33 337a=M69.75 337b=M5e73.6210 337c=M662d.548c 337d=M5927.6b63 337",
     "e=M660e.6cbb 337f=M682a.5f0f.4f1a.793e 3380=M70.61 3381=M6e.61 3382=M3bc.61 3383=M6d.61 3384=M6b.61 ",
     "3385=M6b.62 3386=M6d.62 3387=M67.62 3388=M63.61.6c 3389=M6b.63.61.6c 338a=M70.66 338b=M6e.66 338c=M3",
     "bc.66 338d=M3bc.67 338e=M6d.67 338f=M6b.67 3390=M68.7a 3391=M6b.68.7a 3392=M6d.68.7a 3393=M67.68.7a ",
     "3394=M74.68.7a 3395=M3bc.6c 3396=M6d.6c 3397=M64.6c 3398=M6b.6c 3399=M66.6d 339a=M6e.6d 339b=M3bc.6d",
     " 339c=M6d.6d 339d=M63.6d 339e=M6b.6d 339f=M6d.6d.32 33a0=M63.6d.32 33a1=M6d.32 33a2=M6b.6d.32 33a3=M",
     "6d.6d.33 33a4=M63.6d.33 33a5=M6d.33 33a6=M6b.6d.33 33a7=M6d.2215.73 33a8=M6d.2215.73.32 33a9=M70.61 ",
     "33aa=M6b.70.61 33ab=M6d.70.61 33ac=M67.70.61 33ad=M72.61.64 33ae=M72.61.64.2215.73 33af=M72.61.64.22",
     "15.73.32 33b0=M70.73 33b1=M6e.73 33b2=M3bc.73 33b3=M6d.73 33b4=M70.76 33b5=M6e.76 33b6=M3bc.76 33b7=",
     "M6d.76 33b8=M6b.76 33b9=M6d.76 33ba=M70.77 33bb=M6e.77 33bc=M3bc.77 33bd=M6d.77 33be=M6b.77 33bf=M6d",
     ".77 33c0=M6b.3c9 33c1=M6d.3c9 33c2=X 33c3=M62.71 33c4=M63.63 33c5=M63.64 33c6=M63.2215.6b.67 33c7=X ",
     "33c8=M64.62 33c9=M67.79 33ca=M68.61 33cb=M68.70 33cc=M69.6e 33cd=M6b.6b 33ce=M6b.6d 33cf=M6b.74 33d0",
     "=M6c.6d 33d1=M6c.6e 33d2=M6c.6f.67 33d3=M6c.78 33d4=M6d.62 33d5=M6d.69.6c 33d6=M6d.6f.6c 33d7=M70.68",
     " 33d8=X 33d9=M70.70.6d 33da=M70.72 33db=M73.72 33dc=M73.76 33dd=M77.62 33de=M76.2215.6d 33df=M61.221",
     "5.6d 33e0=M31.65e5 33e1=M32.65e5 33e2=M33.65e5 33e3=M34.65e5 33e4=M35.65e5 33e5=M36.65e5 33e6=M37.65",
     "e5 33e7=M38.65e5 33e8=M39.65e5 33e9=M31.30.65e5 33ea=M31.31.65e5 33eb=M31.32.65e5 33ec=M31.33.65e5 3",
     "3ed=M31.34.65e5 33ee=M31.35.65e5 33ef=M31.36.65e5 33f0=M31.37.65e5 33f1=M31.38.65e5 33f2=M31.39.65e5",
     " 33f3=M32.30.65e5 33f4=M32.31.65e5 33f5=M32.32.65e5 33f6=M32.33.65e5 33f7=M32.34.65e5 33f8=M32.35.65",
     "e5 33f9=M32.36.65e5 33fa=M32.37.65e5 33fb=M32.38.65e5 33fc=M32.39.65e5 33fd=M33.30.65e5 33fe=M33.31.",
     "65e5 33ff=M67.61.6c a48d-a48f=X a4c7-a4cf=X a62c-a63f=X a640=M+1 a642=M+1 a644=M+1 a646=M+1 a648=M+1",
     " a64a=M+1 a64c=M+1 a64e=M+1 a650=M+1 a652=M+1 a654=M+1 a656=M+1 a658=M+1 a65a=M+1 a65c=M+1 a65e=M+1 ",
     "a660=M+1 a662=M+1 a664=M+1 a666=M+1 a668=M+1 a66a=M+1 a66c=M+1 a680=M+1 a682=M+1 a684=M+1 a686=M+1 a",
     "688=M+1 a68a=M+1 a68c=M+1 a68e=M+1 a690=M+1 a692=M+1 a694=M+1 a696=M+1 a698=M+1 a69a=M+1 a69c=M-a252",
     " a69d=M-a251 a6f8-a6ff=X a722=M+1 a724=M+1 a726=M+1 a728=M+1 a72a=M+1 a72c=M+1 a72e=M+1 a732=M+1 a73",
     "4=M+1 a736=M+1 a738=M+1 a73a=M+1 a73c=M+1 a73e=M+1 a740=M+1 a742=M+1 a744=M+1 a746=M+1 a748=M+1 a74a",
     "=M+1 a74c=M+1 a74e=M+1 a750=M+1 a752=M+1 a754=M+1 a756=M+1 a758=M+1 a75a=M+1 a75c=M+1 a75e=M+1 a760=",
     "M+1 a762=M+1 a764=M+1 a766=M+1 a768=M+1 a76a=M+1 a76c=M+1 a76e=M+1 a770=M-1 a779=M+1 a77b=M+1 a77d=M",
     "-8a04 a77e=M+1 a780=M+1 a782=M+1 a784=M+1 a786=M+1 a78b=M+1 a78d=M-a528 a790=M+1 a792=M+1 a796=M+1 a",
     "798=M+1 a79a=M+1 a79c=M+1 a79e=M+1 a7a0=M+1 a7a2=M+1 a7a4=M+1 a7a6=M+1 a7a8=M+1 a7aa=M-a544 a7ab=M-a",
     "54f a7ac=M-a54b a7ad=M-a541 a7ae=M-a544 a7b0=M-a512 a7b1=M-a52a a7b2=M-a515 a7b3=M+3a0 a7b4=M+1 a7b6",
     "=M+1 a7b8=M+1 a7ba=M+1 a7bc=M+1 a7be=M+1 a7c0=M+1 a7c2=M+1 a7c4=M-30 a7c5=M-a543 a7c6=M-8a38 a7c7=M+",
     "1 a7c9=M+1 a7cb=M-a567 a7cc=M+1 a7ce=M+1 a7d0=M+1 a7d2=M+1 a7d4=M+1 a7d6=M+1 a7d8=M+1 a7da=M+1 a7dc=",
     "M-a641 a7dd-a7f0=X a7f1=M-a77e a7f2=M-a78f a7f3=M-a78d a7f4=M-a783 a7f5=M+1 a7f8=M-a6d1 a7f9=M-a6a6 ",
     "a82d-a82f=X a83a-a83f=X a878-a87f=X a8c6-a8cd=X a8da-a8df=X a954-a95e=X a97d-a97f=X a9ce=X a9da-a9dd",
     "=X a9ff=X aa37-aa3f=X aa4e-aa4f=X aa5a-aa5b=X aac3-aada=X aaf7-ab00=X ab07-ab08=X ab0f-ab10=X ab17-a",
     "b1f=X ab27=X ab2f=X ab5c=M-435 ab5d=M-26 ab5e=M-a8f3 ab5f=M-d ab69=M-a8dc ab6c-ab6f=X ab70-abbf=M-97",
     "d0 abee-abef=X abfa-abff=X d7a4-d7af=X d7c7-d7ca=X d7fc-f8ff=X f900=M-6cb8 f901=M-920d f902=M-6a38 f",
     "903=M-6c3b f904=M-8a33 f905=M-aad3 f906=M-a521 f907-f908=M9f9c f909=M-9fb8 f90a=M-6739 f90b=M-a384 f",
     "90c=M-9fc4 f90d=M-9717 f90e=M-82a5 f90f=M-798a f910=M-72d1 f911=M-7157 f912=M-701a f913=M-6884 f914=",
     "M-8f12 f915=M-8bfa f916=M-883d f917=M-8539 f918=M-74db f919=M-67af f91a=M-5f29 f91b=M-aa99 f91c=M-a5",
     "a7 f91d=M-8e19 f91e=M-8703 f91f=M-72f2 f920=M-5b02 f921=M-9bd1 f922=M-8937 f923=M-7356 f924=M-6fc0 f",
     "925=M-965c f926=M-774e f927=M-7108 f928=M-9a5e f929=M-9212 f92a=M-8bc0 f92b=M-862f f92c=M-685e f92d=",
     "M-a9a7 f92e=M-a777 f92f=M-a651 f930=M-946c f931=M-8e5e f932=M-8722 f933=M-824c f934=M-7933 f935=M-73",
     "2f f936=M-72da f937=M-6b48 f938=M-6206 f939=M-5dca f93a=M-5b40 f93b=M-80af f93c=M-7fbd f93d=M-7b9d f",
     "93e=M-7575 f93f=M-663b f940=M-5ac1 f941=M-6e6b f942=M-a063 f943=M-9a3f f944=M-7ce4 f945=M-78c7 f946=",
     "M-86e4 f947=M-807d f948=M-6c86 f949=M-6252 f94a=M-a072 f94b=M-9ce9 f94c=M-8f39 f94d=M-8b73 f94e=M-8a",
     "3f f94f=M-7c20 f950=M-7b19 f951=M-6306 f952=M-a680 f953=M-78c8 f954=M-a778 f955=M-a789 f956=M-7f3a f",
     "957=M-7b99 f958=M-7567 f959=M-62e4 f95a=M-6dda f95b=M-968c f95c=M-8f5a f95d=M-6e5f f95e=M-ab25 f95f=",
     "M-9d78 f960=M-994e f961=M-85da f962=M-83f2 f963=M-a64c f964=M-8069 f965=M-a9a6 f966=M-99bd f967=M-ab",
     "5a f968=M-8c9c f969=M-93f1 f96a=M-7c48 f96b=M-a5a8 f96c=M-a10e f96d=M-826c f96e=M-7525 f96f=M-6ec5 f",
     "970=M-8db6 f971=M-69c1 f972=M-8cea f973=M-9675 f974=M-768f f975=M-95d5 f976=M-8411 f977=M-aac9 f978=",
     "M-a80f f979=M-a7b0 f97a=M-90f9 f97b=M-7c94 f97c=M-770d f97d=M-6eab f97e=M-67af f97f=M-a68a f980=M-a5",
     "3e f981=M-a00e f982=M-9a96 f983=M-93be f984=M-8986 f985=M-805b f986=M-63d9 f987=M-5f1d f988=M-5af1 f",
     "989=M-5abb f98a=M-a6ef f98b=M-92c5 f98c=M-8e15 f98d=M-6a2b f98e=M-9b1a f98f=M-97ff f990=M-9790 f991=",
     "M-94f7 f992=M-8a6f f993=M-884a f994=M-850b f995=M-7fcb f996=M-7ba2 f997=M-7928 f998=M-6a72 f999=M-74",
     "ab f99a=M-6977 f99b=M-6651 f99c=M-a785 f99d=M-a6fa f99e=M-a4e1 f99f=M-88d7 f9a0=M-70de f9a1=M-6ef7 f",
     "9a2=M-9ad9 f9a3=M-99ae f9a4=M-9629 f9a5=M-8df7 f9a6=M-7d68 f9a7=M-8632 f9a8=M-aac4 f9a9=M-a2b0 f9aa=",
     "M-9dc3 f9ab=M-9bf1 f9ac=M-9990 f9ad=M-85fb f9ae=M-8545 f9af=M-7a15 f9b0=M-796a f9b1=M-677d f9b2=M-62",
     "bc f9b3=M-626b f9b4=M-619c f9b5=M-aa2a f9b6=M-8008 f9b7=M-6803 f9b8=M-6300 f9b9=M-98d8 f9ba=M-ab34 f",
     "9bb=M-a8e1 f9bc=M-9dce f9bd=M-9d7e f9be=M-9425 f9bf=M-8fbd f9c0=M-87f2 f9c1=M-837f f9c2=M-74c6 f9c3=",
     "M-6947 f9c4=M-5a37 f9c5=M-933d f9c6=M-6398 f9c7=M-a73e f9c8=M-924d f9c9=M-91d6 f9ca=M-8c89 f9cb=M-8b",
     "2f f9cc=M-85c3 f9cd=M-8474 f9ce=M-8163 f9cf=M-7cbf f9d0=M-6172 f9d1=M-a864 f9d2=M-97a4 f9d3=M-635b f",
     "9d4=M-a9a9 f9d5=M-9cbc f9d6=M-8bec f9d7=M-6aad f9d8=M-9a4d f9d9=M-9895 f9da=M-91c3 f9db=M-8654 f9dc=",
     "M-6356 f9dd=M-a7b4 f9de=M-a5cf f9df=M-9d7a f9e0=M-93cd f9e1=M-9293 f9e2=M-913a f9e3=M-8cfe f9e4=M-85",
     "de f9e5=M-8403 f9e6=M-7a6d f9e7=M-7118 f9e8=M-7107 f9e9=M-681d f9ea=M-6308 f9eb=M-a6ac f9ec=M-8b32 f",
     "9ed=M-a5d0 f9ee=M-881e f9ef=M-8557 f9f0=M-73f6 f9f1=M-634e f9f2=M-5d9b f9f3=M-5b54 f9f4=M-925d f9f5=",
     "M-8c2a f9f6=M-780e f9f7=M-7f2c f9f8=M-7ed8 f9f9=M-7d67 f9fa=M-873a f9fb=M-8962 f9fc=M-6ea4 f9fd=M-ab",
     "3d f9fe=M-76c8 f9ff=M-a7c5 fa00=M-a7f9 fa01=M-9b5b fa02=M-972f fa03=M-7d2d fa04=M-9e7f fa05=M-8ce7 f",
     "a06=M-9352 fa07=M-6acc fa08=M-71bc fa09=M-63bc fa0a=M-707f fa0b=M-9b38 fa0c=M-a8cc fa0d=M-a44d fa10=",
     "M-a1b6 fa12=M-939e fa15=M-a837 fa16=M-86ec fa17=M-834d fa18=M-80dc fa19=M-80bb fa1a=M-80b5 fa1b=M-80",
     "8c fa1c=M-62c6 fa1d=M-7d5f fa1e=M-7a61 fa20=M-740e fa22=M-6f2a fa25=M-69ed fa26=M-6929 fa2a=M-613b f",
     "a2b=M-612f fa2c=M-6104 fa2d=M-5c79 fa2e=M-6950 fa2f=M-6378 fa30=M-aa82 fa31=M-a94a fa32=M-a8e5 fa33=",
     "M-a76a fa34=M-a750 fa35=M-a6e4 fa36=M-a499 fa37=M-a431 fa38=M-a3d0 fa39=M-a1f9 fa3a=M-a192 fa3b=M-9d",
     "d7 fa3c=M-9dce fa3d=M-99a9 fa3e=M-98d6 fa3f=M-98b1 fa40=M-984e fa41=M-94f2 fa42=M-9460 fa43=M-93b2 f",
     "a44=M-91bf fa45=M-8cce fa46=M-8c2c fa47=M-8b25 fa48=M-88da fa49=M-881e fa4a=M-8628 fa4b=M-81ba fa4c=",
     "M-810e fa4d=M-8104 fa4e=M-8106 fa4f=M-80ff fa50=M-80fa fa51=M-80f4 fa52-fa53=M-80c5 fa54=M-8014 fa55",
     "=M-7fd4 fa56=M-7e96 fa57=M-7c63 fa58=M-7c4f fa59=M-7c18 fa5a=M-7ae8 fa5b=M-7a56 fa5c=M-786f fa5d-fa5",
     "e=M8279 fa5f=M-7608 fa60=M-7150 fa61=M-70cb fa62=M-6f61 fa63=M-6f2a fa64=M-6d91 fa65=M-6d5d fa66=M-6",
     "ab0 fa67=M-6a2f fa68=M-6385 fa69=M-626a fa6a=M-622f fa6b=M-99f6 fa6c=M+14882 fa6d=M-7855 fa6e-fa6f=X",
     " fa70=M-ac4a fa71=M-a8bc fa72=M-a90a fa73=M-aaf3 fa74=M-a92f fa75=M-a8f5 fa76=M-a7af fa77=M-a77d fa7",
     "8=M-a4db fa79=M-a524 fa7a=M-a4e1 fa7b=M-a499 fa7c=M-a222 fa7d=M-a1ca fa7e=M-a13a fa7f=M-a12b fa80=M-",
     "a01e fa81=M-9f59 fa82=M-9bb0 fa83=M-9baa fa84=M-9b1b fa85=M-9ad8 fa86=M-99ae fa87=M-9939 fa88=M-9980",
     " fa89=M-98fb fa8a=M-992a fa8b=M-9899 fa8c=M-9858 fa8d=M-96c9 fa8e=M-9672 fa8f=M-963d fa90=M-953a fa9",
     "1=M-941d fa92=M-937b fa93=M-9378 fa94=M-933e fa95=M-8f1c fa96=M-8edc fa97=M-8d56 fa98=M-8bbd fa99=M-",
     "8bce fa9a=M-8b78 fa9b=M-8a7d fa9c=M-892e fa9d=M-82f6 fa9e=M-8869 fa9f=M-87f0 faa0=M-8776 faa1=M-8630",
     " faa2=M-859c faa3=M-8568 faa4=M-8487 faa5=M-8486 faa6=M-83dc faa7=M-83cc faa8=M-83b4 faa9=M-835f faa",
     "a=M-836a faab=M-81df faac=M-7ffb faad=M-7eed faae=M-7e33 faaf=M-7d54 fab0=M-7cbc fab1=M-7b73 fab2=M-",
     "7aad fab3=M-7761 fab4=M-76c5 fab5=M-733c fab6=M-7175 fab7=M-7131 fab8=M-7122 fab9=M-6ffa faba=M-6fc2",
     " fabb=M-6ff0 fabc=M-6fbb fabd=M-6fbf fabe=M-6fd1 fabf=M-6f86 fac0=M-6f36 fac1=M-6db9 fac2=M-6b8a fac",
     "3=M-6a51 fac4=M-692b fac5=M-684f fac6=M-644a fac7=M-63e4 fac8=M-6372 fac9=M-62ee faca=M-62cb facb=M-",
     "62c0 facc=M-6291 facd=M-5fbb face=M-5b32 facf=M+12d7b fad0=M+12d74 fad1=M+13904 fad2=M-bf35 fad3=M-b",
     "abb fad4=M-ba9b fad5=M+15774 fad6=M+161fa fad7=M+183fc fad8=M-5b95 fad9=M-5b4b fada-faff=X fb00=M66.",
     "66 fb01=M66.69 fb02=M66.6c fb03=M66.66.69 fb04=M66.66.6c fb05-fb06=M73.74 fb07-fb12=X fb13=M574.576 ",
     "fb14=M574.565 fb15=M574.56b fb16=M57e.576 fb17=M574.56d fb18-fb1c=X fb1d=M5d9.5b4 fb1f=M5f2.5b7 fb20",
     "=M-f53e fb21=M-f551 fb22-fb23=M-f54f fb24-fb26=M-f549 fb27=M-f53f fb28=M-f53e fb29=M-fafe fb2a=M5e9.",
     "5c1 fb2b=M5e9.5c2 fb2c=M5e9.5bc.5c1 fb2d=M5e9.5bc.5c2 fb2e=M5d0.5b7 fb2f=M5d0.5b8 fb30=M5d0.5bc fb31",
     "=M5d1.5bc fb32=M5d2.5bc fb33=M5d3.5bc fb34=M5d4.5bc fb35=M5d5.5bc fb36=M5d6.5bc fb37=X fb38=M5d8.5bc",
     " fb39=M5d9.5bc fb3a=M5da.5bc fb3b=M5db.5bc fb3c=M5dc.5bc fb3d=X fb3e=M5de.5bc fb3f=X fb40=M5e0.5bc f",
     "b41=M5e1.5bc fb42=X fb43=M5e3.5bc fb44=M5e4.5bc fb45=X fb46=M5e6.5bc fb47=M5e7.5bc fb48=M5e8.5bc fb4",
     "9=M5e9.5bc fb4a=M5ea.5bc fb4b=M5d5.5b9 fb4c=M5d1.5bf fb4d=M5db.5bf fb4e=M5e4.5bf fb4f=M5d0.5dc fb50-",
     "fb51=M671 fb52-fb55=M67b fb56-fb59=M67e fb5a-fb5d=M680 fb5e-fb61=M67a fb62-fb65=M67f fb66-fb69=M679 ",
     "fb6a-fb6d=M6a4 fb6e-fb71=M6a6 fb72-fb75=M684 fb76-fb79=M683 fb7a-fb7d=M686 fb7e-fb81=M687 fb82-fb83=",
     "M68d fb84-fb85=M68c fb86-fb87=M68e fb88-fb89=M688 fb8a-fb8b=M698 fb8c-fb8d=M691 fb8e-fb91=M6a9 fb92-",
     "fb95=M6af fb96-fb99=M6b3 fb9a-fb9d=M6b1 fb9e-fb9f=M6ba fba0-fba3=M6bb fba4-fba5=M6c0 fba6-fba9=M6c1 ",
     "fbaa-fbad=M6be fbae-fbaf=M6d2 fbb0-fbb1=M6d3 fbd3-fbd6=M6ad fbd7-fbd8=M6c7 fbd9-fbda=M6c6 fbdb-fbdc=",
     "M6c8 fbdd=M6c7.674 fbde-fbdf=M6cb fbe0-fbe1=M6c5 fbe2-fbe3=M6c9 fbe4-fbe7=M6d0 fbe8-fbe9=M649 fbea-f",
     "beb=M626.627 fbec-fbed=M626.6d5 fbee-fbef=M626.648 fbf0-fbf1=M626.6c7 fbf2-fbf3=M626.6c6 fbf4-fbf5=M",
     "626.6c8 fbf6-fbf8=M626.6d0 fbf9-fbfb=M626.649 fbfc-fbff=M6cc fc00=M626.62c fc01=M626.62d fc02=M626.6",
     "45 fc03=M626.649 fc04=M626.64a fc05=M628.62c fc06=M628.62d fc07=M628.62e fc08=M628.645 fc09=M628.649",
     " fc0a=M628.64a fc0b=M62a.62c fc0c=M62a.62d fc0d=M62a.62e fc0e=M62a.645 fc0f=M62a.649 fc10=M62a.64a f",
     "c11=M62b.62c fc12=M62b.645 fc13=M62b.649 fc14=M62b.64a fc15=M62c.62d fc16=M62c.645 fc17=M62d.62c fc1",
     "8=M62d.645 fc19=M62e.62c fc1a=M62e.62d fc1b=M62e.645 fc1c=M633.62c fc1d=M633.62d fc1e=M633.62e fc1f=",
     "M633.645 fc20=M635.62d fc21=M635.645 fc22=M636.62c fc23=M636.62d fc24=M636.62e fc25=M636.645 fc26=M6",
     "37.62d fc27=M637.645 fc28=M638.645 fc29=M639.62c fc2a=M639.645 fc2b=M63a.62c fc2c=M63a.645 fc2d=M641",
     ".62c fc2e=M641.62d fc2f=M641.62e fc30=M641.645 fc31=M641.649 fc32=M641.64a fc33=M642.62d fc34=M642.6",
     "45 fc35=M642.649 fc36=M642.64a fc37=M643.627 fc38=M643.62c fc39=M643.62d fc3a=M643.62e fc3b=M643.644",
     " fc3c=M643.645 fc3d=M643.649 fc3e=M643.64a fc3f=M644.62c fc40=M644.62d fc41=M644.62e fc42=M644.645 f",
     "c43=M644.649 fc44=M644.64a fc45=M645.62c fc46=M645.62d fc47=M645.62e fc48=M645.645 fc49=M645.649 fc4",
     "a=M645.64a fc4b=M646.62c fc4c=M646.62d fc4d=M646.62e fc4e=M646.645 fc4f=M646.649 fc50=M646.64a fc51=",
     "M647.62c fc52=M647.645 fc53=M647.649 fc54=M647.64a fc55=M64a.62c fc56=M64a.62d fc57=M64a.62e fc58=M6",
     "4a.645 fc59=M64a.649 fc5a=M64a.64a fc5b=M630.670 fc5c=M631.670 fc5d=M649.670 fc5e=M20.64c.651 fc5f=M",
     "20.64d.651 fc60=M20.64e.651 fc61=M20.64f.651 fc62=M20.650.651 fc63=M20.651.670 fc64=M626.631 fc65=M6",
     "26.632 fc66=M626.645 fc67=M626.646 fc68=M626.649 fc69=M626.64a fc6a=M628.631 fc6b=M628.632 fc6c=M628",
     ".645 fc6d=M628.646 fc6e=M628.649 fc6f=M628.64a fc70=M62a.631 fc71=M62a.632 fc72=M62a.645 fc73=M62a.6",
     "46 fc74=M62a.649 fc75=M62a.64a fc76=M62b.631 fc77=M62b.632 fc78=M62b.645 fc79=M62b.646 fc7a=M62b.649",
     " fc7b=M62b.64a fc7c=M641.649 fc7d=M641.64a fc7e=M642.649 fc7f=M642.64a fc80=M643.627 fc81=M643.644 f",
     "c82=M643.645 fc83=M643.649 fc84=M643.64a fc85=M644.645 fc86=M644.649 fc87=M644.64a fc88=M645.627 fc8",
     "9=M645.645 fc8a=M646.631 fc8b=M646.632 fc8c=M646.645 fc8d=M646.646 fc8e=M646.649 fc8f=M646.64a fc90=",
     "M649.670 fc91=M64a.631 fc92=M64a.632 fc93=M64a.645 fc94=M64a.646 fc95=M64a.649 fc96=M64a.64a fc97=M6",
     "26.62c fc98=M626.62d fc99=M626.62e fc9a=M626.645 fc9b=M626.647 fc9c=M628.62c fc9d=M628.62d fc9e=M628",
     ".62e fc9f=M628.645 fca0=M628.647 fca1=M62a.62c fca2=M62a.62d fca3=M62a.62e fca4=M62a.645 fca5=M62a.6",
     "47 fca6=M62b.645 fca7=M62c.62d fca8=M62c.645 fca9=M62d.62c fcaa=M62d.645 fcab=M62e.62c fcac=M62e.645",
     " fcad=M633.62c fcae=M633.62d fcaf=M633.62e fcb0=M633.645 fcb1=M635.62d fcb2=M635.62e fcb3=M635.645 f",
     "cb4=M636.62c fcb5=M636.62d fcb6=M636.62e fcb7=M636.645 fcb8=M637.62d fcb9=M638.645 fcba=M639.62c fcb",
     "b=M639.645 fcbc=M63a.62c fcbd=M63a.645 fcbe=M641.62c fcbf=M641.62d fcc0=M641.62e fcc1=M641.645 fcc2=",
     "M642.62d fcc3=M642.645 fcc4=M643.62c fcc5=M643.62d fcc6=M643.62e fcc7=M643.644 fcc8=M643.645 fcc9=M6",
     "44.62c fcca=M644.62d fccb=M644.62e fccc=M644.645 fccd=M644.647 fcce=M645.62c fccf=M645.62d fcd0=M645",
     ".62e fcd1=M645.645 fcd2=M646.62c fcd3=M646.62d fcd4=M646.62e fcd5=M646.645 fcd6=M646.647 fcd7=M647.6",
     "2c fcd8=M647.645 fcd9=M647.670 fcda=M64a.62c fcdb=M64a.62d fcdc=M64a.62e fcdd=M64a.645 fcde=M64a.647",
     " fcdf=M626.645 fce0=M626.647 fce1=M628.645 fce2=M628.647 fce3=M62a.645 fce4=M62a.647 fce5=M62b.645 f",
     "ce6=M62b.647 fce7=M633.645 fce8=M633.647 fce9=M634.645 fcea=M634.647 fceb=M643.644 fcec=M643.645 fce",
     "d=M644.645 fcee=M646.645 fcef=M646.647 fcf0=M64a.645 fcf1=M64a.647 fcf2=M640.64e.651 fcf3=M640.64f.6",
     "51 fcf4=M640.650.651 fcf5=M637.649 fcf6=M637.64a fcf7=M639.649 fcf8=M639.64a fcf9=M63a.649 fcfa=M63a",
     ".64a fcfb=M633.649 fcfc=M633.64a fcfd=M634.649 fcfe=M634.64a fcff=M62d.649 fd00=M62d.64a fd01=M62c.6",
     "49 fd02=M62c.64a fd03=M62e.649 fd04=M62e.64a fd05=M635.649 fd06=M635.64a fd07=M636.649 fd08=M636.64a",
     " fd09=M634.62c fd0a=M634.62d fd0b=M634.62e fd0c=M634.645 fd0d=M634.631 fd0e=M633.631 fd0f=M635.631 f",
     "d10=M636.631 fd11=M637.649 fd12=M637.64a fd13=M639.649 fd14=M639.64a fd15=M63a.649 fd16=M63a.64a fd1",
     "7=M633.649 fd18=M633.64a fd19=M634.649 fd1a=M634.64a fd1b=M62d.649 fd1c=M62d.64a fd1d=M62c.649 fd1e=",
     "M62c.64a fd1f=M62e.649 fd20=M62e.64a fd21=M635.649 fd22=M635.64a fd23=M636.649 fd24=M636.64a fd25=M6",
     "34.62c fd26=M634.62d fd27=M634.62e fd28=M634.645 fd29=M634.631 fd2a=M633.631 fd2b=M635.631 fd2c=M636",
     ".631 fd2d=M634.62c fd2e=M634.62d fd2f=M634.62e fd30=M634.645 fd31=M633.647 fd32=M634.647 fd33=M637.6",
     "45 fd34=M633.62c fd35=M633.62d fd36=M633.62e fd37=M634.62c fd38=M634.62d fd39=M634.62e fd3a=M637.645",
     " fd3b=M638.645 fd3c-fd3d=M627.64b fd50=M62a.62c.645 fd51-fd52=M62a.62d.62c fd53=M62a.62d.645 fd54=M6",
     "2a.62e.645 fd55=M62a.645.62c fd56=M62a.645.62d fd57=M62a.645.62e fd58-fd59=M62c.645.62d fd5a=M62d.64",
     "5.64a fd5b=M62d.645.649 fd5c=M633.62d.62c fd5d=M633.62c.62d fd5e=M633.62c.649 fd5f-fd60=M633.645.62d",
     " fd61=M633.645.62c fd62-fd63=M633.645.645 fd64-fd65=M635.62d.62d fd66=M635.645.645 fd67-fd68=M634.62",
     "d.645 fd69=M634.62c.64a fd6a-fd6b=M634.645.62e fd6c-fd6d=M634.645.645 fd6e=M636.62d.649 fd6f-fd70=M6",
     "36.62e.645 fd71-fd72=M637.645.62d fd73=M637.645.645 fd74=M637.645.64a fd75=M639.62c.645 fd76-fd77=M6",
     "39.645.645 fd78=M639.645.649 fd79=M63a.645.645 fd7a=M63a.645.64a fd7b=M63a.645.649 fd7c-fd7d=M641.62",
     "e.645 fd7e=M642.645.62d fd7f=M642.645.645 fd80=M644.62d.645 fd81=M644.62d.64a fd82=M644.62d.649 fd83",
     "-fd84=M644.62c.62c fd85-fd86=M644.62e.645 fd87-fd88=M644.645.62d fd89=M645.62d.62c fd8a=M645.62d.645",
     " fd8b=M645.62d.64a fd8c=M645.62c.62d fd8d=M645.62c.645 fd8e=M645.62e.62c fd8f=M645.62e.645 fd92=M645",
     ".62c.62e fd93=M647.645.62c fd94=M647.645.645 fd95=M646.62d.645 fd96=M646.62d.649 fd97-fd98=M646.62c.",
     "645 fd99=M646.62c.649 fd9a=M646.645.64a fd9b=M646.645.649 fd9c-fd9d=M64a.645.645 fd9e=M628.62e.64a f",
     "d9f=M62a.62c.64a fda0=M62a.62c.649 fda1=M62a.62e.64a fda2=M62a.62e.649 fda3=M62a.645.64a fda4=M62a.6",
     "45.649 fda5=M62c.645.64a fda6=M62c.62d.649 fda7=M62c.645.649 fda8=M633.62e.649 fda9=M635.62d.64a fda",
     "a=M634.62d.64a fdab=M636.62d.64a fdac=M644.62c.64a fdad=M644.645.64a fdae=M64a.62d.64a fdaf=M64a.62c",
     ".64a fdb0=M64a.645.64a fdb1=M645.645.64a fdb2=M642.645.64a fdb3=M646.62d.64a fdb4=M642.645.62d fdb5=",
     "M644.62d.645 fdb6=M639.645.64a fdb7=M643.645.64a fdb8=M646.62c.62d fdb9=M645.62e.64a fdba=M644.62c.6",
     "45 fdbb=M643.645.645 fdbc=M644.62c.645 fdbd=M646.62c.62d fdbe=M62c.62d.64a fdbf=M62d.62c.64a fdc0=M6",
     "45.62c.64a fdc1=M641.645.64a fdc2=M628.62d.64a fdc3=M643.645.645 fdc4=M639.62c.645 fdc5=M635.645.645",
     " fdc6=M633.62e.64a fdc7=M646.62c.64a fdd0-fdef=X fdf0=M635.644.6d2 fdf1=M642.644.6d2 fdf2=M627.644.6",
     "44.647 fdf3=M627.643.628.631 fdf4=M645.62d.645.62f fdf5=M635.644.639.645 fdf6=M631.633.648.644 fdf7=",
     "M639.644.64a.647 fdf8=M648.633.644.645 fdf9=M635.644.649 fdfa=M635.644.649.20.627.644.644.647.20.639",
     ".644.64a.647.20.648.633.644.645 fdfb=M62c.644.20.62c.644.627.644.647 fdfc=M631.6cc.627.644 fe00-fe0f",
     "=I fe10=M-fde4 fe11=M-ce10 fe12=X fe13-fe14=M-fdd9 fe15=M-fdf4 fe16=M-fdd7 fe17-fe18=M-ce01 fe19-fe1",
     "f=X fe30=X fe31=M-de1d fe32=M-de1f fe33-fe34=M5f fe35-fe36=M-fe0d fe37=M-fdbc fe38=M-fdbb fe39-fe3a=",
     "M-ce25 fe3b-fe3c=M-ce2b fe3d-fe3e=M-ce33 fe3f-fe40=M-ce37 fe41-fe44=M-ce35 fe47=M-fdec fe48=M-fdeb f",
     "e49-fe4c=M20.305 fe4d-fe4f=M5f fe50=M-fe24 fe51=M-ce50 fe52-fe53=X fe54=M-fe19 fe55=M-fe1b fe56=M-fe",
     "17 fe57=M-fe36 fe58=M-de44 fe59-fe5a=M-fe31 fe5b=M-fde0 fe5c=M-fddf fe5d-fe5e=M-ce49 fe5f=M-fe3c fe6",
     "0=M-fe3a fe61-fe62=M-fe37 fe63=M-fe36 fe64=M-fe28 fe65=M-fe27 fe66=M-fe29 fe67=X fe68=M-fe0c fe69-fe",
     "6a=M-fe45 fe6b=M-fe2b fe6c-fe6f=X fe70=M20.64b fe71=M640.64b fe72=M20.64c fe74=M20.64d fe75=X fe76=M",
     "20.64e fe77=M640.64e fe78=M20.64f fe79=M640.64f fe7a=M20.650 fe7b=M640.650 fe7c=M20.651 fe7d=M640.65",
     "1 fe7e=M20.652 fe7f=M640.652 fe80=M-f85f fe81-fe82=M622 fe83-fe84=M623 fe85-fe86=M624 fe87-fe88=M625",
     " fe89-fe8c=M626 fe8d-fe8e=M627 fe8f-fe92=M628 fe93-fe94=M629 fe95-fe98=M62a fe99-fe9c=M62b fe9d-fea0",
     "=M62c fea1-fea4=M62d fea5-fea8=M62e fea9-feaa=M62f feab-feac=M630 fead-feae=M631 feaf-feb0=M632 feb1",
     "-feb4=M633 feb5-feb8=M634 feb9-febc=M635 febd-fec0=M636 fec1-fec4=M637 fec5-fec8=M638 fec9-fecc=M639",
     " fecd-fed0=M63a fed1-fed4=M641 fed5-fed8=M642 fed9-fedc=M643 fedd-fee0=M644 fee1-fee4=M645 fee5-fee8",
     "=M646 fee9-feec=M647 feed-feee=M648 feef-fef0=M649 fef1-fef4=M64a fef5-fef6=M644.622 fef7-fef8=M644.",
     "623 fef9-fefa=M644.625 fefb-fefc=M644.627 fefd-fefe=X feff=I ff00=X ff01-ff20=M-fee0 ff21-ff3a=M-fec",
     "0 ff3b-ff5e=M-fee0 ff5f-ff60=M-d5da ff61=M-ff33 ff62-ff63=M-cf56 ff64=M-cf63 ff65=M-ce6a ff66=M-ce74",
     " ff67=M-cec6 ff68=M-cec5 ff69=M-cec4 ff6a=M-cec3 ff6b=M-cec2 ff6c=M-ce89 ff6d=M-ce88 ff6e=M-ce87 ff6",
     "f=M-ceac ff70=M-ce74 ff71=M-cecf ff72=M-cece ff73=M-cecd ff74=M-cecc ff75-ff76=M-cecb ff77=M-ceca ff",
     "78=M-cec9 ff79=M-cec8 ff7a=M-cec7 ff7b=M-cec6 ff7c=M-cec5 ff7d=M-cec4 ff7e=M-cec3 ff7f=M-cec2 ff80=M",
     "-cec1 ff81=M-cec0 ff82=M-cebe ff83=M-cebd ff84=M-cebc ff85-ff8a=M-cebb ff8b=M-ceb9 ff8c=M-ceb7 ff8d=",
     "M-ceb5 ff8e=M-ceb3 ff8f-ff93=M-ceb1 ff94=M-ceb0 ff95=M-ceaf ff96-ff9b=M-ceae ff9c=M-cead ff9d=M-ceaa",
     " ff9e-ff9f=M-cf05 ffa0=I ffa1-ffa2=M-eea1 ffa3=M-edf9 ffa4=M-eea2 ffa5-ffa6=M-edf9 ffa7-ffa9=M-eea4 ",
     "ffaa-ffaf=M-edfa ffb0=M-ee96 ffb1-ffb3=M-eeab ffb4=M-ee93 ffb5-ffbe=M-eeac ffbf-ffc1=X ffc2-ffc7=M-e",
     "e61 ffc8-ffc9=X ffca-ffcf=M-ee63 ffd0-ffd1=X ffd2-ffd7=M-ee65 ffd8-ffd9=X ffda-ffdc=M-ee67 ffdd-ffdf",
     "=X ffe0-ffe1=M-ff3e ffe2=M-ff36 ffe3=M20.304 ffe4=M-ff3e ffe5=M-ff40 ffe6=M-df3d ffe7=X ffe8=M-dae6 ",
     "ffe9-ffec=M-de59 ffed=M-da4d ffee=M-da23 ffef-ffff=X 1000c=X 10027=X 1003b=X 1003e=X 1004e-1004f=X 1",
     "005e-1007f=X 100fb-100ff=X 10103-10106=X 10134-10136=X 1018f=X 1019d-1019f=X 101a1-101cf=X 101fe-102",
     "7f=X 1029d-1029f=X 102d1-102df=X 102fc-102ff=X 10324-1032c=X 1034b-1034f=X 1037b-1037f=X 1039e=X 103",
     "c4-103c7=X 103d6-103ff=X 10400-10427=M+28 1049e-1049f=X 104aa-104af=X 104b0-104d3=M+28 104d4-104d7=X",
     " 104fc-104ff=X 10528-1052f=X 10564-1056e=X 10570-1057a=M+27 1057b=X 1057c-1058a=M+27 1058b=X 1058c-1",
     "0592=M+27 10593=X 10594-10595=M+27 10596=X 105a2=X 105b2=X 105ba=X 105bd-105bf=X 105f4-105ff=X 10737",
     "-1073f=X 10756-1075f=X 10768-1077f=X 10781-10782=M-104b1 10783=M-1069d 10784=M-104eb 10785=M-10532 1",
     "0786=X 10787=M-104e4 10788=M-5c22 10789=M-104e4 1078a=M-104e6 1078b-1078c=M-10535 1078d=M-e9fc 1078e",
     "=M-10536 1078f=M-10531 10790=M-104e7 10791=M-1052d 10792=M-10530 10793=M-10533 10794=M-104f9 10795=M",
     "-1066e 10796=M-104fa 10797=M-10530 10798=M-10514 10799-1079a=M-104ef 1079b=M-1052f 1079c=M+d768 1079",
     "d=M-600f 1079e=M-10530 1079f=M+d766 107a0=M-10512 107a1=M+d765 107a2=M-106aa 107a3-107a4=M-1052d 107",
     "a5=M-10734 107a6=M-1052c 107a7=M+d761 107a8-107a9=M-1052b 107aa=M-1052a 107ab=M-10503 107ac=M-10506 ",
     "107ad=M-5c46 107ae=M-10507 107af=M-10527 107b0=M-db3f 107b1=X 107b2=M-10523 107b3-107b4=M-10512 107b",
     "5=M-1051d 107b6-107b8=M-105f6 107b9=M+d751 107ba=M+d764 107bb-107ff=X 10806-10807=X 10809=X 10836=X ",
     "10839-1083b=X 1083d-1083e=X 10856=X 1089f-108a6=X 108b0-108df=X 108f3=X 108f6-108fa=X 1091c-1091e=X ",
     "1093a-1093e=X 1095a-1097f=X 109b8-109bb=X 109d0-109d1=X 10a04=X 10a07-10a0b=X 10a14=X 10a18=X 10a36-",
     "10a37=X 10a3b-10a3e=X 10a49-10a4f=X 10a59-10a5f=X 10aa0-10abf=X 10ae7-10aea=X 10af7-10aff=X 10b36-10",
     "b38=X 10b56-10b57=X 10b73-10b77=X 10b92-10b98=X 10b9d-10ba8=X 10bb0-10bff=X 10c49-10c7f=X 10c80-10cb",
     "2=M+40 10cb3-10cbf=X 10cf3-10cf9=X 10d28-10d2f=X 10d3a-10d3f=X 10d50-10d65=M+20 10d66-10d68=X 10d86-",
     "10d8d=X 10d90-10e5f=X 10e7f=X 10eaa=X 10eae-10eaf=X 10eb2-10ec1=X 10ec8-10ecf=X 10ed9-10ef9=X 10f28-",
     "10f2f=X 10f5a-10f6f=X 10f8a-10faf=X 10fcc-10fdf=X 10ff7-10fff=X 1104e-11051=X 11076-1107e=X 110bd=X ",
     "110c3-110cf=X 110e9-110ef=X 110fa-110ff=X 11135=X 11148-1114f=X 11177-1117f=X 111e0=X 111f5-111ff=X ",
     "11212=X 11242-1127f=X 11287=X 11289=X 1128e=X 1129e=X 112aa-112af=X 112eb-112ef=X 112fa-112ff=X 1130",
     "4=X 1130d-1130e=X 11311-11312=X 11329=X 11331=X 11334=X 1133a=X 11345-11346=X 11349-1134a=X 1134e-11",
     "34f=X 11351-11356=X 11358-1135c=X 11364-11365=X 1136d-1136f=X 11375-1137f=X 1138a=X 1138c-1138d=X 11",
     "38f=X 113b6=X 113c1=X 113c3-113c4=X 113c6=X 113cb=X 113d6=X 113d9-113e0=X 113e3-113ff=X 1145c=X 1146",
     "2-1147f=X 114c8-114cf=X 114da-1157f=X 115b6-115b7=X 115de-115ff=X 11645-1164f=X 1165a-1165f=X 1166d-",
     "1167f=X 116ba-116bf=X 116ca-116cf=X 116e4-116ff=X 1171b-1171c=X 1172c-1172f=X 11747-117ff=X 1183c-11",
     "89f=X 118a0-118bf=M+20 118f3-118fe=X 11907-11908=X 1190a-1190b=X 11914=X 11917=X 11936=X 11939-1193a",
     "=X 11947-1194f=X 1195a-1199f=X 119a8-119a9=X 119d8-119d9=X 119e5-119ff=X 11a48-11a4f=X 11aa3-11aaf=X",
     " 11af9-11aff=X 11b0a-11b5f=X 11b68-11bbf=X 11be2-11bef=X 11bfa-11bff=X 11c09=X 11c37=X 11c46-11c4f=X",
     " 11c6d-11c6f=X 11c90-11c91=X 11ca8=X 11cb7-11cff=X 11d07=X 11d0a=X 11d37-11d39=X 11d3b=X 11d3e=X 11d",
     "48-11d4f=X 11d5a-11d5f=X 11d66=X 11d69=X 11d8f=X 11d92=X 11d99-11d9f=X 11daa-11daf=X 11ddc-11ddf=X 1",
     "1dea-11edf=X 11ef9-11eff=X 11f11=X 11f3b-11f3d=X 11f5b-11faf=X 11fb1-11fbf=X 11ff2-11ffe=X 1239a-123",
     "ff=X 1246f=X 12475-1247f=X 12544-12f8f=X 12ff3-12fff=X 13430-1343f=X 13456-1345f=X 143fb-143ff=X 146",
     "47-160ff=X 1613a-167ff=X 16a39-16a3f=X 16a5f=X 16a6a-16a6d=X 16abf=X 16aca-16acf=X 16aee-16aef=X 16a",
     "f6-16aff=X 16b46-16b4f=X 16b5a=X 16b62=X 16b78-16b7c=X 16b90-16d3f=X 16d7a-16e3f=X 16e40-16e5f=M+20 ",
     "16e9b-16e9f=X 16ea0-16eb8=M+1b 16eb9-16eba=X 16ed4-16eff=X 16f4b-16f4e=X 16f88-16f8e=X 16fa0-16fdf=X",
     " 16fe5-16fef=X 16ff7-16fff=X 18cd6-18cfe=X 18d1f-18d7f=X 18df3-1afef=X 1aff4=X 1affc=X 1afff=X 1b123",
     "-1b131=X 1b133-1b14f=X 1b153-1b154=X 1b156-1b163=X 1b168-1b16f=X 1b2fc-1bbff=X 1bc6b-1bc6f=X 1bc7d-1",
     "bc7f=X 1bc89-1bc8f=X 1bc9a-1bc9b=X 1bca0-1bca3=I 1bca4-1cbff=X 1ccd6-1ccef=M-1cc75 1ccf0-1ccf9=M-1cc",
     "c0 1ccfd-1ccff=X 1ceb4-1ceb9=X 1ced1-1cedf=X 1cef1-1ceff=X 1cf2e-1cf2f=X 1cf47-1cf4f=X 1cfc4-1cfff=X",
     " 1d0f6-1d0ff=X 1d127-1d128=X 1d15e=M1d157.1d165 1d15f=M1d158.1d165 1d160=M1d158.1d165.1d16e 1d161=M1",
     "d158.1d165.1d16f 1d162=M1d158.1d165.1d170 1d163=M1d158.1d165.1d171 1d164=M1d158.1d165.1d172 1d173-1d",
     "17a=I 1d1bb=M1d1b9.1d165 1d1bc=M1d1ba.1d165 1d1bd=M1d1b9.1d165.1d16e 1d1be=M1d1ba.1d165.1d16e 1d1bf=",
     "M1d1b9.1d165.1d16f 1d1c0=M1d1ba.1d165.1d16f 1d1eb-1d1ff=X 1d246-1d2bf=X 1d2d4-1d2df=X 1d2f4-1d2ff=X ",
     "1d357-1d35f=X 1d379-1d3ff=X 1d400-1d419=M-1d39f 1d41a-1d433=M-1d3b9 1d434-1d44d=M-1d3d3 1d44e-1d454=",
     "M-1d3ed 1d455=X 1d456-1d467=M-1d3ed 1d468-1d481=M-1d407 1d482-1d49b=M-1d421 1d49c=M-1d43b 1d49d=X 1d",
     "49e-1d49f=M-1d43b 1d4a0-1d4a1=X 1d4a2=M-1d43b 1d4a3-1d4a4=X 1d4a5-1d4a6=M-1d43b 1d4a7-1d4a8=X 1d4a9-",
     "1d4ac=M-1d43b 1d4ad=X 1d4ae-1d4b5=M-1d43b 1d4b6-1d4b9=M-1d455 1d4ba=X 1d4bb=M-1d455 1d4bc=X 1d4bd-1d",
     "4c3=M-1d455 1d4c4=X 1d4c5-1d4cf=M-1d455 1d4d0-1d4e9=M-1d46f 1d4ea-1d503=M-1d489 1d504-1d505=M-1d4a3 ",
     "1d506=X 1d507-1d50a=M-1d4a3 1d50b-1d50c=X 1d50d-1d514=M-1d4a3 1d515=X 1d516-1d51c=M-1d4a3 1d51d=X 1d",
     "51e-1d537=M-1d4bd 1d538-1d539=M-1d4d7 1d53a=X 1d53b-1d53e=M-1d4d7 1d53f=X 1d540-1d544=M-1d4d7 1d545=",
     "X 1d546=M-1d4d7 1d547-1d549=X 1d54a-1d550=M-1d4d7 1d551=X 1d552-1d56b=M-1d4f1 1d56c-1d585=M-1d50b 1d",
     "586-1d59f=M-1d525 1d5a0-1d5b9=M-1d53f 1d5ba-1d5d3=M-1d559 1d5d4-1d5ed=M-1d573 1d5ee-1d607=M-1d58d 1d",
     "608-1d621=M-1d5a7 1d622-1d63b=M-1d5c1 1d63c-1d655=M-1d5db 1d656-1d66f=M-1d5f5 1d670-1d689=M-1d60f 1d",
     "68a-1d6a3=M-1d629 1d6a4=M-1d573 1d6a5=M-1d46e 1d6a6-1d6a7=X 1d6a8-1d6b8=M-1d2f7 1d6b9=M-1d301 1d6ba-",
     "1d6c0=M-1d2f7 1d6c1=M-1b4ba 1d6c2-1d6d2=M-1d311 1d6d3-1d6d4=M3c3 1d6d5-1d6da=M-1d311 1d6db=M-1b4d9 1",
     "d6dc=M-1d327 1d6dd=M-1d325 1d6de=M-1d324 1d6df=M-1d319 1d6e0=M-1d31f 1d6e1=M-1d321 1d6e2-1d6f2=M-1d3",
     "31 1d6f3=M-1d33b 1d6f4-1d6fa=M-1d331 1d6fb=M-1b4f4 1d6fc-1d70c=M-1d34b 1d70d-1d70e=M3c3 1d70f-1d714=",
     "M-1d34b 1d715=M-1b513 1d716=M-1d361 1d717=M-1d35f 1d718=M-1d35e 1d719=M-1d353 1d71a=M-1d359 1d71b=M-",
     "1d35b 1d71c-1d72c=M-1d36b 1d72d=M-1d375 1d72e-1d734=M-1d36b 1d735=M-1b52e 1d736-1d746=M-1d385 1d747-",
     "1d748=M3c3 1d749-1d74e=M-1d385 1d74f=M-1b54d 1d750=M-1d39b 1d751=M-1d399 1d752=M-1d398 1d753=M-1d38d",
     " 1d754=M-1d393 1d755=M-1d395 1d756-1d766=M-1d3a5 1d767=M-1d3af 1d768-1d76e=M-1d3a5 1d76f=M-1b568 1d7",
     "70-1d780=M-1d3bf 1d781-1d782=M3c3 1d783-1d788=M-1d3bf 1d789=M-1b587 1d78a=M-1d3d5 1d78b=M-1d3d3 1d78",
     "c=M-1d3d2 1d78d=M-1d3c7 1d78e=M-1d3cd 1d78f=M-1d3cf 1d790-1d7a0=M-1d3df 1d7a1=M-1d3e9 1d7a2-1d7a8=M-",
     "1d3df 1d7a9=M-1b5a2 1d7aa-1d7ba=M-1d3f9 1d7bb-1d7bc=M3c3 1d7bd-1d7c2=M-1d3f9 1d7c3=M-1b5c1 1d7c4=M-1",
     "d40f 1d7c5=M-1d40d 1d7c6=M-1d40c 1d7c7=M-1d401 1d7c8=M-1d407 1d7c9=M-1d409 1d7ca-1d7cb=M3dd 1d7cc-1d",
     "7cd=X 1d7ce-1d7d7=M-1d79e 1d7d8-1d7e1=M-1d7a8 1d7e2-1d7eb=M-1d7b2 1d7ec-1d7f5=M-1d7bc 1d7f6-1d7ff=M-",
     "1d7c6 1da8c-1da9a=X 1daa0=X 1dab0-1deff=X 1df1f-1df24=X 1df2b-1dfff=X 1e007=X 1e019-1e01a=X 1e022=X ",
     "1e025=X 1e02b-1e02f=X 1e030-1e038=M-1dc00 1e039-1e03b=M-1dbff 1e03c-1e046=M-1dbfe 1e047=M-1dbfc 1e04",
     "8-1e049=M-1dbfb 1e04a=M-139c1 1e04b=M-1db72 1e04c=M-1dbf6 1e04d=M-1dbf5 1e04e=M-1db65 1e04f=M-1dba0 ",
     "1e050=M-1db81 1e051-1e059=M-1dc21 1e05a-1e05b=M-1dc20 1e05c-1e05d=M-1dc1e 1e05e=M-1dc1d 1e05f-1e064=",
     "M-1dc1c 1e065-1e066=M-1dc1b 1e067=M-1dbd6 1e068=M-1dc12 1e069=M-1dc14 1e06a=M-1dc0b 1e06b=M-1dbc0 1e",
     "06c=M-13a1b 1e06d=M-1dbbc 1e06e-1e08e=X 1e090-1e0ff=X 1e12d-1e12f=X 1e13e-1e13f=X 1e14a-1e14d=X 1e15",
     "0-1e28f=X 1e2af-1e2bf=X 1e2fa-1e2fe=X 1e300-1e4cf=X 1e4fa-1e5cf=X 1e5fb-1e5fe=X 1e600-1e6bf=X 1e6df=",
     "X 1e6f6-1e6fd=X 1e700-1e7df=X 1e7e7=X 1e7ec=X 1e7ef=X 1e7ff=X 1e8c5-1e8c6=X 1e8d7-1e8ff=X 1e900-1e92",
     "1=M+22 1e94c-1e94f=X 1e95a-1e95d=X 1e960-1ec70=X 1ecb5-1ed00=X 1ed3e-1edff=X 1ee00-1ee01=M-1e7d9 1ee",
     "02=M-1e7d6 1ee03=M-1e7d4 1ee04=X 1ee05=M-1e7bd 1ee06=M-1e7d4 1ee07=M-1e7da 1ee08=M-1e7d1 1ee09=M-1e7",
     "bf 1ee0a-1ee0d=M-1e7c7 1ee0e=M-1e7db 1ee0f=M-1e7d6 1ee10=M-1e7cf 1ee11=M-1e7dc 1ee12=M-1e7d0 1ee13=M",
     "-1e7e2 1ee14=M-1e7e0 1ee15-1ee16=M-1e7eb 1ee17=M-1e7e9 1ee18=M-1e7e8 1ee19=M-1e7e3 1ee1a=M-1e7e2 1ee",
     "1b=M-1e7e1 1ee1c=M-1e7ae 1ee1d=M-1e763 1ee1e=M-1e77d 1ee1f=M-1e7b0 1ee20=X 1ee21=M-1e7f9 1ee22=M-1e7",
     "f6 1ee23=X 1ee24=M-1e7dd 1ee25-1ee26=X 1ee27=M-1e7fa 1ee28=X 1ee29=M-1e7df 1ee2a-1ee2d=M-1e7e7 1ee2e",
     "=M-1e7fb 1ee2f=M-1e7f6 1ee30=M-1e7ef 1ee31=M-1e7fc 1ee32=M-1e7f0 1ee33=X 1ee34=M-1e800 1ee35-1ee36=M",
     "-1e80b 1ee37=M-1e809 1ee38=X 1ee39=M-1e803 1ee3a=X 1ee3b=M-1e801 1ee3c-1ee41=X 1ee42=M-1e816 1ee43-1",
     "ee46=X 1ee47=M-1e81a 1ee48=X 1ee49=M-1e7ff 1ee4a=X 1ee4b=M-1e807 1ee4c=X 1ee4d=M-1e807 1ee4e=M-1e81b",
     " 1ee4f=M-1e816 1ee50=X 1ee51=M-1e81c 1ee52=M-1e810 1ee53=X 1ee54=M-1e820 1ee55-1ee56=X 1ee57=M-1e829",
     " 1ee58=X 1ee59=M-1e823 1ee5a=X 1ee5b=M-1e821 1ee5c=X 1ee5d=M-1e7a3 1ee5e=X 1ee5f=M-1e7f0 1ee60=X 1ee",
     "61=M-1e839 1ee62=M-1e836 1ee63=X 1ee64=M-1e81d 1ee65-1ee66=X 1ee67=M-1e83a 1ee68=M-1e831 1ee69=M-1e8",
     "1f 1ee6a=M-1e827 1ee6b=X 1ee6c-1ee6d=M-1e827 1ee6e=M-1e83b 1ee6f=M-1e836 1ee70=M-1e82f 1ee71=M-1e83c",
     " 1ee72=M-1e830 1ee73=X 1ee74=M-1e840 1ee75-1ee76=M-1e84b 1ee77=M-1e849 1ee78=X 1ee79=M-1e843 1ee7a=M",
     "-1e842 1ee7b=M-1e841 1ee7c=M-1e80e 1ee7d=X 1ee7e=M-1e7dd 1ee7f=X 1ee80-1ee81=M-1e859 1ee82=M-1e856 1",
     "ee83=M-1e854 1ee84-1ee85=M-1e83d 1ee86=M-1e854 1ee87=M-1e85a 1ee88=M-1e851 1ee89=M-1e83f 1ee8a=X 1ee",
     "8b-1ee8d=M-1e847 1ee8e=M-1e85b 1ee8f=M-1e856 1ee90=M-1e84f 1ee91=M-1e85c 1ee92=M-1e850 1ee93=M-1e862",
     " 1ee94=M-1e860 1ee95-1ee96=M-1e86b 1ee97=M-1e869 1ee98=M-1e868 1ee99=M-1e863 1ee9a=M-1e862 1ee9b=M-1",
     "e861 1ee9c-1eea0=X 1eea1=M-1e879 1eea2=M-1e876 1eea3=M-1e874 1eea4=X 1eea5=M-1e85d 1eea6=M-1e874 1ee",
     "a7=M-1e87a 1eea8=M-1e871 1eea9=M-1e85f 1eeaa=X 1eeab-1eead=M-1e867 1eeae=M-1e87b 1eeaf=M-1e876 1eeb0",
     "=M-1e86f 1eeb1=M-1e87c 1eeb2=M-1e870 1eeb3=M-1e882 1eeb4=M-1e880 1eeb5-1eeb6=M-1e88b 1eeb7=M-1e889 1",
     "eeb8=M-1e888 1eeb9=M-1e883 1eeba=M-1e882 1eebb=M-1e881 1eebc-1eeef=X 1eef2-1efff=X 1f02c-1f02f=X 1f0",
     "94-1f09f=X 1f0af-1f0b0=X 1f0c0=X 1f0d0=X 1f0f6-1f100=X 1f101=M30.2c 1f102=M31.2c 1f103=M32.2c 1f104=",
     "M33.2c 1f105=M34.2c 1f106=M35.2c 1f107=M36.2c 1f108=M37.2c 1f109=M38.2c 1f10a=M39.2c 1f110=M28.61.29",
     " 1f111=M28.62.29 1f112=M28.63.29 1f113=M28.64.29 1f114=M28.65.29 1f115=M28.66.29 1f116=M28.67.29 1f1",
     "17=M28.68.29 1f118=M28.69.29 1f119=M28.6a.29 1f11a=M28.6b.29 1f11b=M28.6c.29 1f11c=M28.6d.29 1f11d=M",
     "28.6e.29 1f11e=M28.6f.29 1f11f=M28.70.29 1f120=M28.71.29 1f121=M28.72.29 1f122=M28.73.29 1f123=M28.7",
     "4.29 1f124=M28.75.29 1f125=M28.76.29 1f126=M28.77.29 1f127=M28.78.29 1f128=M28.79.29 1f129=M28.7a.29",
     " 1f12a=M3014.73.3015 1f12b=M-1f0c8 1f12c=M-1f0ba 1f12d=M63.64 1f12e=M77.7a 1f130-1f149=M-1f0cf 1f14a",
     "=M68.76 1f14b=M6d.76 1f14c=M73.64 1f14d=M73.73 1f14e=M70.70.76 1f14f=M77.63 1f16a=M6d.63 1f16b=M6d.6",
     "4 1f16c=M6d.72 1f190=M64.6a 1f1ae-1f1e5=X 1f200=M307b.304b 1f201=M30b3.30b3 1f202=M-1c14d 1f203-1f20",
     "f=X 1f210=M-18fc5 1f211=M-196ba 1f212=M-19e46 1f213=M-1c14c 1f214=M-1a388 1f215=M-198fb 1f216=M-1683",
     "3 1f217=M-198ee 1f218=M-1a374 1f219=M-18bf9 1f21a=M-180f9 1f21b=M-18c82 1f21c=M-19fcf 1f21d=M-19291 ",
     "1f21e=M-1a091 1f21f=M-18c6f 1f220=M-1a003 1f221=M-174df 1f222=M-17d03 1f223=M-1657a 1f224=M-19934 1f",
     "225=M-19dec 1f226=M-18312 1f227=M-18f92 1f228=M-18ed3 1f229=M-1a429 1f22a=M-1a421 1f22b=M-161e1 1f22",
     "c=M-19446 1f22d=M-1a400 1f22e=M-19e3b 1f22f=M-18f28 1f230=M-164c0 1f231=M-18fde 1f232=M-178b1 1f233=",
     "M-177b9 1f234=M-19e2c 1f235=M-183b5 1f236=M-18b2d 1f237=M-18b2f 1f238=M-17d05 1f239=M-19fc7 1f23a=M-",
     "19c84 1f23b=M-160ee 1f23c-1f23f=X 1f240=M3014.672c.3015 1f241=M3014.4e09.3015 1f242=M3014.4e8c.3015 ",
     "1f243=M3014.5b89.3015 1f244=M3014.70b9.3015 1f245=M3014.6253.3015 1f246=M3014.76d7.3015 1f247=M3014.",
     "52dd.3015 1f248=M3014.6557.3015 1f249-1f24f=X 1f250=M-192b9 1f251=M-19e62 1f252-1f25f=X 1f266-1f2ff=",
     "X 1f6d9-1f6db=X 1f6ed-1f6ef=X 1f6fd-1f6ff=X 1f7da-1f7df=X 1f7ec-1f7ef=X 1f7f1-1f7ff=X 1f80c-1f80f=X ",
     "1f848-1f84f=X 1f85a-1f85f=X 1f888-1f88f=X 1f8ae-1f8af=X 1f8bc-1f8bf=X 1f8c2-1f8cf=X 1f8d9-1f8ff=X 1f",
     "a58-1fa5f=X 1fa6e-1fa6f=X 1fa7d-1fa7f=X 1fa8b-1fa8d=X 1fac7=X 1fac9-1facc=X 1fadd-1fade=X 1faeb-1fae",
     "e=X 1faf9-1faff=X 1fb93=X 1fbf0-1fbf9=M-1fbc0 1fbfb-1ffff=X 2a6e0-2a6ff=X 2b81e-2b81f=X 2ceae-2ceaf=",
     "X 2ebe1-2ebef=X 2ee5e-2f7ff=X 2f800=M-2a9c3 2f801=M-2a9c9 2f802=M-2a9c1 2f803=M-f6e1 2f804=M-2a8a4 2",
     "f805=M-2a857 2f806=M-2a84b 2f807=M-2a805 2f808=M-2a78e 2f809=M-2a770 2f80a=M-2a723 2f80b=M-2a73c 2f8",
     "0c=M-2c36e 2f80d=M-f1d3 2f80e=M-2a6c1 2f80f=M-2a6bb 2f810=M-2a6ac 2f811=M-2a69a 2f812=M-f2f6 2f813=M",
     "-2c35a 2f814=M-2a6ad 2f815=M-2a688 2f816=M-f2cb 2f817=M-2a680 2f818=M-2a674 2f819=M-2a94d 2f81a=M-2a",
     "66e 2f81b=M-2a666 2f81c=M-663d 2f81d=M-2a628 2f81e=M-2a61b 2f81f=M-2c340 2f820=M-2a5e5 2f821=M-2a5db",
     " 2f822=M-2a5b0 2f823=M-2a5ac 2f824=M-2c30f 2f825=M-2a55e 2f826=M-2a55d 2f827=M-2a543 2f828=M-2a52e 2",
     "f829-2f82a=M-2a524 2f82b=M-2a514 2f82c=M-2a4e3 2f82d=M-2a4dc 2f82e=M-2a4d4 2f82f=M-2a4bc 2f830=M-2a4",
     "b3 2f831-2f833=M537f 2f834=M-ee08 2f835=M-287c5 2f836=M-2a46c 2f837=M-2a458 2f838=M-ecd5 2f839=M-2a4",
     "4e 2f83a=M-2a449 2f83b=M-2a435 2f83c=M-2a39e 2f83d=M-2a405 2f83e=M-2a3f6 2f83f=M-2a3d7 2f840=M-2a39e",
     " 2f841=M-2a34b 2f842=M-2a332 2f843=M-2a2f0 2f844=M-2a2e1 2f845-2f846=M5584 2f847=M-2a2ae 2f848=M-2a2",
     "9d 2f849=M-2a296 2f84a=M-2a288 2f84b=M-2a135 2f84c=M-2a246 2f84d=M-2a136 2f84e=M-2a1fd 2f84f=M-2a1db",
     " 2f850=M-2a649 2f851=M-29f63 2f852=M-2a084 2f853=M-2a05f 2f854=M-2a047 2f855=M-2a0ca 2f856=M-2a024 2",
     "f857=M-2a026 2f858=M-29fac 2f859=M-e375 2f85a=M-29f68 2f85b=M-29f64 2f85c=M-29f56 2f85d=M-29f43 2f85",
     "e=M-29f3c 2f85f=M-29efd 2f860=M-e1b8 2f861=M-e177 2f862=M-29e76 2f863=M-29e48 2f864=M-29e3d 2f865=M-",
     "29e8d 2f866=M-29e00 2f867=M-2c179 2f868=M-2c16c 2f869=M-29d61 2f86a-2f86b=M5b3e 2f86c=M-dea4 2f86d=M",
     "-29caa 2f86e=M-29c96 2f86f=M-29c88 2f870=M-29c7d 2f871=M-dd59 2f872=M-29c73 2f873=M-29c6d 2f874=M-29",
     "921 2f875=M-29c53 2f876=M-2c0f5 2f877=M-29c17 2f878=M-29c0a 2f879=M-29bb9 2f87a=M-29bed 2f87b=M-da97",
     " 2f87c=M-29b39 2f87d=M-da97 2f87e=M-29b10 2f87f=M-29b14 2f880=M-29b04 2f881-2f882=M-29aa0 2f883=M-2c",
     "054 2f884=M-29a87 2f885=M-29a5d 2f886=M-29a49 2f887=M-29a1e 2f888=M-2c026 2f889=M-d706 2f88a=M-2c00e",
     " 2f88b=M-299db 2f88c=M-299d9 2f88d=M-299d7 2f88e=M-299c4 2f88f=M-54fd 2f890=M-29992 2f891-2f892=M223",
     "31 2f893=M-27692 2f894-2f895=M5f22 2f896=M-2bfcf 2f897=M-c5df 2f898=M-96be 2f899=M-29937 2f89a=M-299",
     "2f 2f89b=M-2bfb8 2f89c=M-29902 2f89d=M-298d0 2f89e=M-298c7 2f89f=M-298a6 2f8a0=M-2981f 2f8a1=M-2bf67",
     " 2f8a2=M-2bf86 2f8a3=M-2980f 2f8a4=M-d1d0 2f8a5=M-297de 2f8a6=M-2975e 2f8a7=M-2975b 2f8a8=M-2975a 2f",
     "8a9=M-2975d 2f8aa=M-29730 2f8ab=M-2971d 2f8ac=M-296fa 2f8ad=M-29709 2f8ae=M-296ff 2f8af=M-296d1 2f8b",
     "0=M-296be 2f8b1=M-296bb 2f8b2=M-296a2 2f8b3=M-29698 2f8b4=M-29657 2f8b5=M-29604 2f8b6=M-295e2 2f8b7=",
     "M-29567 2f8b8=M-cdac 2f8b9=M-2957c 2f8ba=M-295be 2f8bb=M-29553 2f8bc=M-29539 2f8bd=M-294d9 2f8be=M-c",
     "ccd 2f8bf=M-2949d 2f8c0=M-294fb 2f8c1=M-29518 2f8c2=M-2be94 2f8c3=M-2945a 2f8c4=M-29446 2f8c5=M-2942",
     "8 2f8c6=M-2944f 2f8c7=M-2be5b 2f8c8=M-29379 2f8c9=M-2935d 2f8ca=M-c8c0 2f8cb=M-292e8 2f8cc=M-291d4 2",
     "f8cd=M-29284 2f8ce=M-2bdb5 2f8cf=M-2923e 2f8d0=M-2bdc8 2f8d1=M-2bded 2f8d2=M-2a740 2f8d3=M-2a73e 2f8",
     "d4=M-291d4 2f8d5=M-29239 2f8d6=M-27829 2f8d7=M-2b4fe 2f8d8=M-291c1 2f8d9=M-291be 2f8da=M-291b9 2f8db",
     "=M-2917d 2f8dc=M-29189 2f8dd=M-c51a 2f8de=M-2bd95 2f8df=M-290e5 2f8e0=M-2915b 2f8e1=M-2908f 2f8e2=M-",
     "2905d 2f8e3=M-c476 2f8e4=M-29056 2f8e5=M-290c6 2f8e6=M-28fd2 2f8e7=M-2bd4a 2f8e8=M-28fa6 2f8e9=M-28f",
     "46 2f8ea=M-28f00 2f8eb=M-28e43 2f8ec=M-c249 2f8ed=M-28e12 2f8ee=M-2bcd6 2f8ef=M-28dce 2f8f0=M-c049 2",
     "f8f1=M-28d9d 2f8f2=M-2bca4 2f8f3=M-28d81 2f8f4=M-28d55 2f8f5-2f8f6=M-28d3b 2f8f7=M-be6a 2f8f8=M-dbed",
     " 2f8f9=M-bdff 2f8fa=M-28cac 2f8fb=M-bc3f 2f8fc=M-28c3d 2f8fd=M-28c30 2f8fe=M-28c97 2f8ff=M-28be9 2f9",
     "00=M-28bc2 2f901=M-28b8a 2f902=M-28bc1 2f903=M-28b9a 2f904=M-28b8c 2f905=M-28b80 2f906=M-bbe8 2f907=",
     "M-28bd3 2f908=M-28ad9 2f909=M-28a9b 2f90a=M-2bbd7 2f90b=M-28a40 2f90c=M-28a45 2f90d=M-ba3c 2f90e=M-2",
     "8b15 2f90f=M-289a1 2f910=M-b9b2 2f911=M-b983 2f912=M-2894c 2f913=M-288da 2f914=M-288f6 2f915=M-288fa",
     " 2f916=M-2bb80 2f917=M-288cd 2f918=M-2889b 2f919=M-288a2 2f91a=M-2886d 2f91b=M-f3f6 2f91c=M-287d7 2f",
     "91d=M-b6ba 2f91e=M-28782 2f91f=M-b574 2f920=M-286f8 2f921=M-286ec 2f922=M-286d2 2f923=M-b31b 2f924=M",
     "-286a4 2f925=M-28690 2f926=M-b1f1 2f927=M-b113 2f928=M-285ae 2f929=M-2859e 2f92a=M-2ba7e 2f92b=M-285",
     "86 2f92c-2f92d=M3eb8 2f92e=M-284e7 2f92f=M-284d3 2f930=M-284bf 2f931=M-284ac 2f932=M-28468 2f933=M-2",
     "ba18 2f934=M-28410 2f935=M-acff 2f936=M-283f8 2f937=M-aca5 2f938=M-283c8 2f939=M-d79a 2f93a=M-2832a ",
     "2f93b=M-a99a 2f93c=M-a984 2f93d=M-a8f9 2f93e=M-2b942 2f93f=M-2b937 2f940=M-2824c 2f941=M-a84e 2f942=",
     "M-a850 2f943=M-a82a 2f944=M-a811 2f945=M-28227 2f946-2f947=M771f 2f948=M-281fe 2f949=M-2b910 2f94a=M",
     "-281bf 2f94b=M-2b905 2f94c=M-2b8b6 2f94d=M-a530 2f94e=M-28100 2f94f=M-280c3 2f950=M-28084 2f951=M-2b",
     "86e 2f952=M-a32c 2f953=M-27ffd 2f954=M-a2ba 2f955=M-a290 2f956=M-27fc7 2f957=M-27f6c 2f958=M-2b829 2",
     "f959=M-27f19 2f95a=M-27f10 2f95b=M-27f0c 2f95c=M-9fe0 2f95d-2f95e=M25aa7 2f95f=M-27e71 2f960=M-2b75e",
     " 2f961=M-9db6 2f962=M-27d9c 2f963=M-27d9a 2f964=M-2b73d 2f965=M-9ce5 2f966=M-27c94 2f967=M-2b6c7 2f9",
     "68=M-27c80 2f969=M-27c86 2f96a=M-27c6a 2f96b=M-99e5 2f96c=M-27c09 2f96d=M-2b66c 2f96e=M-27ba7 2f96f=",
     "M-27b6d 2f970=M-27b2b 2f971=M-2b63d 2f972=M-974a 2f973=M-972c 2f974=M-2b61b 2f975=M-969c 2f976=M-279",
     "fc 2f977=M-9639 2f978=M-279e3 2f979=M-2797f 2f97a=M-27975 2f97b=M-94a1 2f97c=M-9459 2f97d=M-2791d 2f",
     "97e=M-93d6 2f97f=M-2790f 2f980=M-c621 2f981=M-2b5ac 2f982=M-278d0 2f983=M-27880 2f984=M-2b579 2f985=",
     "M-27847 2f986=M-29ed1 2f987=M-91e0 2f988=M-91d3 2f989=M-c5f6 2f98a=M-c5ee 2f98b=M-2778a 2f98c=M-2778",
     "8 2f98d=M-269ef 2f98e=M-2b523 2f98f=M-276fe 2f990=M-27705 2f991=M-276f4 2f992=M-2a6df 2f993=M-276e2 ",
     "2f994=M-276e1 2f995=M-276d8 2f996=M-276b0 2f997=M-8e5b 2f998=M-276b3 2f999=M-2767c 2f99a=M-27637 2f9",
     "9b=M-275ee 2f99c=M-27679 2f99d=M-275e0 2f99e=M-275b7 2f99f=M-27548 2f9a0=M-2764d 2f9a1=M-275d7 2f9a2",
     "=M-275d6 2f9a3=M-275c7 2f9a4=M-8d6e 2f9a5=M-8c3a 2f9a6=M-8cd1 2f9a7=M-2b47c 2f9a8=M-274b7 2f9a9=M-27",
     "4b6 2f9aa=M-27494 2f9ab=M-85e1 2f9ac=M-27448 2f9ad=M-8a81 2f9ae=M-2b451 2f9af=M-2b44e 2f9b0=M-89ff 2",
     "f9b1=M-88df 2f9b2=M-2b447 2f9b3=M-27363 2f9b4=M-27358 2f9b5=M-2734e 2f9b6=M-2734d 2f9b7=M-2730e 2f9b",
     "8=M-27330 2f9b9=M-272ab 2f9ba=M-272d8 2f9bb=M-27242 2f9bc=M-27294 2f9bd=M-27252 2f9be=M-27238 2f9bf=",
     "M-2b3e8 2f9c0=M-271df 2f9c1=M-271c0 2f9c2=M-2b3c9 2f9c3=M-27163 2f9c4=M-27161 2f9c5=M-835e 2f9c6=M-2",
     "70ef 2f9c7=M-270e9 2f9c8=M-2b393 2f9c9=M-270cf 2f9ca=M-2c50f 2f9cb=M-811d 2f9cc=M-8066 2f9cd=M-2b30f",
     " 2f9ce=M-2b307 2f9cf=M-26f2f 2f9d0=M-26ee3 2f9d1=M-26e47 2f9d2=M-26d7d 2f9d3=M-7d2b 2f9d4=M-26d29 2f",
     "9d5=M-26d14 2f9d6=M-26cbb 2f9d7=M-26c60 2f9d8=M-7aa9 2f9d9=M-f1d5 2f9da=M-26c0f 2f9db=M-26c1f 2f9dc=",
     "M-26bec 2f9dd=M-f0ff 2f9de=M-26b0a 2f9df=M-26aa7 2f9e0=M-740e 2f9e1=M-73f4 2f9e2=M-2694e 2f9e3=M-268",
     "f2 2f9e4=M-268d3 2f9e5=M-72b7 2f9e6=M-268cb 2f9e7=M-267af 2f9e8-2f9e9=M-26711 2f9ea=M-2676e 2f9eb=M-",
     "265f2 2f9ec=M-265d7 2f9ed=M-6df3 2f9ee=M-26463 2f9ef=M-2b05a 2f9f0=M-26439 2f9f1=M-6c7a 2f9f2=M-2b00",
     "c 2f9f3=M-26330 2f9f4=M-29c42 2f9f5=M-262d2 2f9f6=M-68b1 2f9f7=M-67dd 2f9f8=M-2af8a 2f9f9=M-2af83 2f",
     "9fa=M-2621a 2f9fb=M-65f1 2f9fc=M-2af4a 2f9fd=M-6567 2f9fe-2f9ff=M980b 2fa00=M-261d7 2fa01=M-644b 2fa",
     "02=M-26120 2fa03=M-2aed0 2fa04=M-260db 2fa05=M-2605e 2fa06=M-26044 2fa07=M-26009 2fa08=M-2ae3a 2fa09",
     "=M-5ed9 2fa0a=M-25ef8 2fa0b=M-25dcb 2fa0c=M-25d0f 2fa0d=M-2ad3f 2fa0e=M-2ad21 2fa0f=M-25ca8 2fa10=M-",
     "5942 2fa11=M-2ad19 2fa12=M-590d 2fa13=M-5805 2fa14=M-5783 2fa15=M-25b5a 2fa16=M-2acc0 2fa17=M-25b1e ",
     "2fa18=M-25b1a 2fa19=M-25b14 2fa1a=M-25b0b 2fa1b=M-25b05 2fa1c=M-25ae1 2fa1d=M-541d 2fa1e-2ffff=X 313",
     "4b-3134f=X 3347a-e00ff=X e0100-e01ef=I e01f0-10ffff=X"]

/-- The rules for the code points that are not valid. -/
def mappingRules : Table Rule := Table.ofText Rule.ofCode mappingText

/-- What the mapping does with a code point.  Of ASCII, the capital letters map to small
ones and every other character is valid. -/
def status (n : Nat) : Status :=
  if n < 0x80 then (if 0x41 ≤ n && n ≤ 0x5A then .mapped [n + 32] else .valid)
  else
    match mappingRules.find? n with
    | some (.fixed s) => s
    | some (.offset up d) => .mapped [if up then n + d else n - d]
    | none => .valid

example : status 0x41 = .mapped [0x61] ∧ status 0x2D = .valid := by decide

end Storefront.DomainName
