import TagCatalog.Text.CodePoints

/-!
The tables of characters that may stand in names, and of their usual forms.
-/

namespace TagCatalog.Text

/-- Characters outside ASCII that may stand in a name, as they are or in another form. -/
def admitted : CodePoints := .ofText
  "a0-ac ae-34e 350-377 37a-37f 384-38a 38c 38e-3a1 3a3-52f 531-556 559-58a 58d-58f 591-5c7
   5d0-5ea 5ef-5f4 606-61b 61d-6dc 6de-70d 710-74a 74d-7b1 7c0-7fa 7fd-82d 830-83e 840-85b 85e
   860-86a 870-88f 897-8e1 8e3-983 985-98c 98f-990 993-9a8 9aa-9b0 9b2 9b6-9b9 9bc-9c4 9c7-9c8
   9cb-9ce 9d7 9dc-9dd 9df-9e3 9e6-9fe a01-a03 a05-a0a a0f-a10 a13-a28 a2a-a30 a32-a33 a35-a36
   a38-a39 a3c a3e-a42 a47-a48 a4b-a4d a51 a59-a5c a5e a66-a76 a81-a83 a85-a8d a8f-a91 a93-aa8
   aaa-ab0 ab2-ab3 ab5-ab9 abc-ac5 ac7-ac9 acb-acd ad0 ae0-ae3 ae6-af1 af9-aff b01-b03 b05-b0c
   b0f-b10 b13-b28 b2a-b30 b32-b33 b35-b39 b3c-b44 b47-b48 b4b-b4d b55-b57 b5c-b5d b5f-b63 b66-b77
   b82-b83 b85-b8a b8e-b90 b92-b95 b99-b9a b9c b9e-b9f ba3-ba4 ba8-baa bae-bb9 bbe-bc2 bc6-bc8
   bca-bcd bd0 bd7 be6-bfa c00-c0c c0e-c10 c12-c28 c2a-c39 c3c-c44 c46-c48 c4a-c4d c55-c56 c58-c5a
   c5c-c5d c60-c63 c66-c6f c77-c8c c8e-c90 c92-ca8 caa-cb3 cb5-cb9 cbc-cc4 cc6-cc8 cca-ccd cd5-cd6
   cdc-cde ce0-ce3 ce6-cef cf1-cf3 d00-d0c d0e-d10 d12-d44 d46-d48 d4a-d4f d54-d63 d66-d7f d81-d83
   d85-d96 d9a-db1 db3-dbb dbd dc0-dc6 dca dcf-dd4 dd6 dd8-ddf de6-def df2-df4 e01-e3a e3f-e5b
   e81-e82 e84 e86-e8a e8c-ea3 ea5 ea7-ebd ec0-ec4 ec6 ec8-ece ed0-ed9 edc-edf f00-f47 f49-f6c
   f71-f97 f99-fbc fbe-fcc fce-fda 1000-10c5 10c7 10cd 10d0-115e 1161-1248 124a-124d 1250-1256
   1258 125a-125d 1260-1288 128a-128d 1290-12b0 12b2-12b5 12b8-12be 12c0 12c2-12c5 12c8-12d6
   12d8-1310 1312-1315 1318-135a 135d-137c 1380-1399 13a0-13f5 13f8-13fd 1400-167f 1681-169c
   16a0-16f8 1700-1715 171f-1736 1740-1753 1760-176c 176e-1770 1772-1773 1780-17b3 17b6-17dd
   17e0-17e9 17f0-17f9 1800-180a 1810-1819 1820-1878 1880-18aa 18b0-18f5 1900-191e 1920-192b
   1930-193b 1940 1944-196d 1970-1974 1980-19ab 19b0-19c9 19d0-19da 19de-1a1b 1a1e-1a5e 1a60-1a7c
   1a7f-1a89 1a90-1a99 1aa0-1aad 1ab0-1add 1ae0-1aeb 1b00-1b4c 1b4e-1bf3 1bfc-1c37 1c3b-1c49
   1c4d-1c8a 1c90-1cba 1cbd-1cc7 1cd0-1cfa 1d00-1f15 1f18-1f1d 1f20-1f45 1f48-1f4d 1f50-1f57 1f59
   1f5b 1f5d 1f5f-1f7d 1f80-1fb4 1fb6-1fc4 1fc6-1fd3 1fd6-1fdb 1fdd-1fef 1ff2-1ff4 1ff6-1ffe
   2000-200a 200c-200d 2010-2023 2027 202f-205f 2070-2071 2074-208e 2090-209c 20a0-20c1 20d0-20f0
   2100-218b 2190-2429 2440-244a 2460-2487 249c-2b73 2b76-2cf3 2cf9-2d25 2d27 2d2d 2d30-2d67
   2d6f-2d70 2d7f-2d96 2da0-2da6 2da8-2dae 2db0-2db6 2db8-2dbe 2dc0-2dc6 2dc8-2dce 2dd0-2dd6
   2dd8-2dde 2de0-2e5d 2e80-2e99 2e9b-2ef3 2f00-2fd5 3000-303f 3041-3096 3099-30ff 3105-312f
   3131-3163 3165-318e 3190-31e5 31f0-321e 3220-33c1 33c3-33c6 33c8-33d7 33d9-a48c a490-a4c6
   a4d0-a62b a640-a6f7 a700-a7dc a7f1-a82c a830-a839 a840-a877 a880-a8c5 a8ce-a8d9 a8e0-a953
   a95f-a97c a980-a9cd a9cf-a9d9 a9de-a9fe aa00-aa36 aa40-aa4d aa50-aa59 aa5c-aac2 aadb-aaf6
   ab01-ab06 ab09-ab0e ab11-ab16 ab20-ab26 ab28-ab2e ab30-ab6b ab70-abed abf0-abf9 ac00-d7a3
   d7b0-d7c6 d7cb-d7fb f900-fa6d fa70-fad9 fb00-fb06 fb13-fb17 fb1d-fb36 fb38-fb3c fb3e fb40-fb41
   fb43-fb44 fb46-fdcf fdf0-fdff fe10-fe11 fe13-fe18 fe20-fe2f fe31-fe51 fe54-fe66 fe68-fe6b
   fe70-fe74 fe76-fefc ff01-ff9f ffa1-ffbe ffc2-ffc7 ffca-ffcf ffd2-ffd7 ffda-ffdc ffe0-ffe6
   ffe8-ffee 10000-1000b 1000d-10026 10028-1003a 1003c-1003d 1003f-1004d 10050-1005d 10080-100fa
   10100-10102 10107-10133 10137-1018e 10190-1019c 101a0 101d0-101fd 10280-1029c 102a0-102d0
   102e0-102fb 10300-10323 1032d-1034a 10350-1037a 10380-1039d 1039f-103c3 103c8-103d5 10400-1049d
   104a0-104a9 104b0-104d3 104d8-104fb 10500-10527 10530-10563 1056f-1057a 1057c-1058a 1058c-10592
   10594-10595 10597-105a1 105a3-105b1 105b3-105b9 105bb-105bc 105c0-105f3 10600-10736 10740-10755
   10760-10767 10780-10785 10787-107b0 107b2-107ba 10800-10805 10808 1080a-10835 10837-10838 1083c
   1083f-10855 10857-1089e 108a7-108af 108e0-108f2 108f4-108f5 108fb-1091b 1091f-10939 1093f-10959
   10980-109b7 109bc-109cf 109d2-10a03 10a05-10a06 10a0c-10a13 10a15-10a17 10a19-10a35 10a38-10a3a
   10a3f-10a48 10a50-10a58 10a60-10a9f 10ac0-10ae6 10aeb-10af6 10b00-10b35 10b39-10b55 10b58-10b72
   10b78-10b91 10b99-10b9c 10ba9-10baf 10c00-10c48 10c80-10cb2 10cc0-10cf2 10cfa-10d27 10d30-10d39
   10d40-10d65 10d69-10d85 10d8e-10d8f 10e60-10e7e 10e80-10ea9 10eab-10ead 10eb0-10eb1 10ec2-10ec7
   10ed0-10ed8 10efa-10f27 10f30-10f59 10f70-10f89 10fb0-10fcb 10fe0-10ff6 11000-1104d 11052-11075
   1107f-110bc 110be-110c2 110d0-110e8 110f0-110f9 11100-11134 11136-11147 11150-11176 11180-111df
   111e1-111f4 11200-11211 11213-11241 11280-11286 11288 1128a-1128d 1128f-1129d 1129f-112a9
   112b0-112ea 112f0-112f9 11300-11303 11305-1130c 1130f-11310 11313-11328 1132a-11330 11332-11333
   11335-11339 1133b-11344 11347-11348 1134b-1134d 11350 11357 1135d-11363 11366-1136c 11370-11374
   11380-11389 1138b 1138e 11390-113b5 113b7-113c0 113c2 113c5 113c7-113ca 113cc-113d5 113d7-113d8
   113e1-113e2 11400-1145b 1145d-11461 11480-114c7 114d0-114d9 11580-115b5 115b8-115dd 11600-11644
   11650-11659 11660-1166c 11680-116b9 116c0-116c9 116d0-116e3 11700-1171a 1171d-1172b 11730-11746
   11800-1183b 118a0-118f2 118ff-11906 11909 1190c-11913 11915-11916 11918-11935 11937-11938
   1193b-11946 11950-11959 119a0-119a7 119aa-119d7 119da-119e4 11a00-11a47 11a50-11aa2 11ab0-11af8
   11b00-11b09 11b60-11b67 11bc0-11be1 11bf0-11bf9 11c00-11c08 11c0a-11c36 11c38-11c45 11c50-11c6c
   11c70-11c8f 11c92-11ca7 11ca9-11cb6 11d00-11d06 11d08-11d09 11d0b-11d36 11d3a 11d3c-11d3d
   11d3f-11d47 11d50-11d59 11d60-11d65 11d67-11d68 11d6a-11d8e 11d90-11d91 11d93-11d98 11da0-11da9
   11db0-11ddb 11de0-11de9 11ee0-11ef8 11f00-11f10 11f12-11f3a 11f3e-11f5a 11fb0 11fc0-11ff1
   11fff-12399 12400-1246e 12470-12474 12480-12543 12f90-12ff2 13000-1342f 13440-13455 13460-143fa
   14400-14646 16100-16139 16800-16a38 16a40-16a5e 16a60-16a69 16a6e-16abe 16ac0-16ac9 16ad0-16aed
   16af0-16af5 16b00-16b45 16b50-16b59 16b5b-16b61 16b63-16b77 16b7d-16b8f 16d40-16d79 16e40-16e9a
   16ea0-16eb8 16ebb-16ed3 16f00-16f4a 16f4f-16f87 16f8f-16f9f 16fe0-16fe4 16ff0-16ff6 17000-18cd5
   18cff-18d1e 18d80-18df2 1aff0-1aff3 1aff5-1affb 1affd-1affe 1b000-1b122 1b132 1b150-1b152 1b155
   1b164-1b167 1b170-1b2fb 1bc00-1bc6a 1bc70-1bc7c 1bc80-1bc88 1bc90-1bc99 1bc9c-1bc9f 1cc00-1ccfc
   1cd00-1ceb3 1ceba-1ced0 1cee0-1cef0 1cf00-1cf2d 1cf30-1cf46 1cf50-1cfc3 1d000-1d0f5 1d100-1d126
   1d129-1d172 1d17b-1d1ea 1d200-1d245 1d2c0-1d2d3 1d2e0-1d2f3 1d300-1d356 1d360-1d378 1d400-1d454
   1d456-1d49c 1d49e-1d49f 1d4a2 1d4a5-1d4a6 1d4a9-1d4ac 1d4ae-1d4b9 1d4bb 1d4bd-1d4c3 1d4c5-1d505
   1d507-1d50a 1d50d-1d514 1d516-1d51c 1d51e-1d539 1d53b-1d53e 1d540-1d544 1d546 1d54a-1d550
   1d552-1d6a5 1d6a8-1d7cb 1d7ce-1da8b 1da9b-1da9f 1daa1-1daaf 1df00-1df1e 1df25-1df2a 1e000-1e006
   1e008-1e018 1e01b-1e021 1e023-1e024 1e026-1e02a 1e030-1e06d 1e08f 1e100-1e12c 1e130-1e13d
   1e140-1e149 1e14e-1e14f 1e290-1e2ae 1e2c0-1e2f9 1e2ff 1e4d0-1e4f9 1e5d0-1e5fa 1e5ff 1e6c0-1e6de
   1e6e0-1e6f5 1e6fe-1e6ff 1e7e0-1e7e6 1e7e8-1e7eb 1e7ed-1e7ee 1e7f0-1e7fe 1e800-1e8c4 1e8c7-1e8d6
   1e900-1e94b 1e950-1e959 1e95e-1e95f 1ec71-1ecb4 1ed01-1ed3d 1ee00-1ee03 1ee05-1ee1f 1ee21-1ee22
   1ee24 1ee27 1ee29-1ee32 1ee34-1ee37 1ee39 1ee3b 1ee42 1ee47 1ee49 1ee4b 1ee4d-1ee4f 1ee51-1ee52
   1ee54 1ee57 1ee59 1ee5b 1ee5d 1ee5f 1ee61-1ee62 1ee64 1ee67-1ee6a 1ee6c-1ee72 1ee74-1ee77
   1ee79-1ee7c 1ee7e 1ee80-1ee89 1ee8b-1ee9b 1eea1-1eea3 1eea5-1eea9 1eeab-1eebb 1eef0-1eef1
   1f000-1f02b 1f030-1f093 1f0a0-1f0ae 1f0b1-1f0bf 1f0c1-1f0cf 1f0d1-1f0f5 1f101-1f1ad 1f1e6-1f202
   1f210-1f23b 1f240-1f248 1f250-1f251 1f260-1f265 1f300-1f6d8 1f6dc-1f6ec 1f6f0-1f6fc 1f700-1f7d9
   1f7e0-1f7eb 1f7f0 1f800-1f80b 1f810-1f847 1f850-1f859 1f860-1f887 1f890-1f8ad 1f8b0-1f8bb
   1f8c0-1f8c1 1f8d0-1f8d8 1f900-1fa57 1fa60-1fa6d 1fa70-1fa7c 1fa80-1fa8a 1fa8e-1fac6 1fac8
   1facd-1fadc 1fadf-1faea 1faef-1faf8 1fb00-1fb92 1fb94-1fbfa 20000-2a6df 2a700-2b81d 2b820-2cead
   2ceb0-2ebe0 2ebf0-2ee5d 2f800-2fa1d 30000-3134a 31350-33479"

/-- Characters that are left out of a name. -/
def unseen : CodePoints := .ofText
  "ad 34f 115f-1160 17b4-17b5 180b-180f 200b 2060-2064 206a-206f 3164 fe00-fe0f feff ffa0
   1bca0-1bca3 1d173-1d17a e0100-e01ef"

/-- Characters whose usual forms follow a rule. -/
structure FoldingRun where
  /-- The first of them. -/
  first : Nat
  count : Nat
  /-- How far they lie apart. -/
  stride : Nat
  /-- The usual form of the first. -/
  form : Nat
  /-- How far the usual forms lie apart. -/
  step : Nat
  deriving Repr, DecidableEq

/-- Reads runs, five numbers each. -/
def FoldingRun.ofNumbers : List Nat → List FoldingRun
  | first :: count :: stride :: form :: step :: rest =>
    ⟨first, count, stride, form, step⟩ :: ofNumbers rest
  | _ => []

/-- The usual form of a character of the run. -/
def FoldingRun.form? (r : FoldingRun) (c : Char) : Option Char :=
  let place := (c.toNat - r.first) / r.stride
  if r.first ≤ c.toNat ∧ (c.toNat - r.first) % r.stride = 0 ∧ place < r.count then
    some (Char.ofNat (r.form + r.step * place))
  else none

/-- Characters outside ASCII whose usual forms follow a rule. -/
def foldingRuns : List FoldingRun := FoldingRun.ofNumbers <| CodePoints.numbers
  "b2 2 1 32 1 182 2 2 183 2 189 2 1 256 1 18f 2 1 259 2 1a2 2 2 1a3 2 1b1 2 1 28a 1 1b3 2 2 1b4 2
   222 2 2 223 2 246 5 2 247 2 2b0 2 2 68 2 2b4 2 1 279 2 2b7 2 1 77 2 370 2 2 371 2 391 11 1 3b1
   1 3a3 7 1 3c3 1 3d8 c 2 3d9 2 3f1 2 1 3c1 2 3fd 3 1 37b 1 402 5 2 452 2 409 2 2 459 2 410 10 2
   430 2 411 4 2 431 2 41b b 2 43b 2 460 b 2 461 2 478 5 2 479 2 48a 1b 2 48b 2 4c3 6 2 4c4 2 4fa
   1b 2 4fb 2 531 26 1 561 1 10a0 26 1 2d00 1 13f8 6 1 13f0 1 1c80 2 1 432 2 1c83 2 1 441 1 1c90
   2b 1 10d0 1 1cbd 3 1 10fd 1 1d2c 2 2 61 1 1d30 2 1 64 1 1d33 8 1 67 1 1d3c 2 2 6f 1 1d3f 2 1 72
   2 1d41 2 1 75 2 1d44 2 1 250 1 1d47 2 1 62 2 1d4a 2 1 259 2 1d4f 2 1 6b 2 1d54 2 1 1d16 1 1d57
   2 1 74 1 1d5d 3 1 3b2 1 1d60 2 1 3c6 1 1d64 2 1 75 1 1d66 2 1 3b2 1 1d69 2 1 3c6 1 1da1 2 1 25f
   2 1da4 3 1 268 1 1dac 2 2 271 1 1daf 3 1 273 1 1db3 2 1 282 1 1db6 2 1 289 1 1db9 2 1 28b 1
   1dbc 3 1 290 1 1efa 3 2 1efb 2 2002 9 1 20 0 2074 6 1 34 1 207d 2 1 28 1 2080 a 1 30 1 208d 2 1
   28 1 2096 4 1 6b 1 209b 2 1 73 1 210a 2 1 67 1 210c 3 1 68 0 2110 2 1 69 0 2112 2 1 6c 0 2119 3
   1 70 1 211c 2 1 72 0 212c 2 1 62 1 212f 2 1 65 0 2133 2 1 6d 2 2135 4 1 5d0 1 213d 2 1 3b3 0
   2145 2 1 64 0 2148 2 1 69 1 216d 2 1 63 1 217d 2 1 63 1 2460 9 1 31 1 24b6 1a 1 61 1 24d0 1a 1
   61 1 2c00 30 1 2c30 1 2c67 3 2 2c68 2 2c6f 2 1 250 2 2c7e 2 1 23f 1 2c80 32 2 2c81 2 2ceb 2 2
   2cec 2 2f5b 2 1 7259 2 3039 2 1 5344 1 3131 2 1 1100 1 3133 2 2 11aa 2 3137 3 1 1103 1 313a 6 1
   11b0 1 3141 3 1 1106 1 3145 a 1 1109 1 314f 15 1 1161 1 3165 2 1 1114 1 3167 2 1 11c7 1 3169 2
   1 11cc 2 316c 2 1 11d7 2 316f 2 1 11dd 2 3171 2 1 111d 1 3173 2 1 1120 2 3176 3 1 1127 2 3179 4
   1 112c 1 3182 2 1 11f1 1 3184 3 1 1157 1 3187 2 1 1184 1 318a 2 1 1191 1 3194 3 2 4e09 1 3260 2
   1 1100 2 3262 2 1 1103 2 3264 2 1 1106 1 3266 2 1 1109 2 3268 2 1 110c 2 326a 4 1 110f 1 32a4 2
   2 4e0a 1 32d0 5 1 30a2 2 32d5 c 1 30ab 2 32e1 4 1 30c4 2 32e5 5 1 30cb 1 32ee 5 1 30de 1 32f3 3
   1 30e4 2 32f6 5 1 30e9 1 32fb 4 1 30ef 1 a640 17 2 a641 2 a680 e 2 a681 2 a69c 2 1 44a 2 a722 7
   2 a723 2 a732 1f 2 a733 2 a779 2 2 a77a 2 a77e 5 2 a77f 2 a790 2 2 a791 2 a796 a 2 a797 2 a7b4
   8 2 a7b5 2 a7c7 2 2 a7c8 2 a7cc 8 2 a7cd 2 ab70 50 1 13a0 1 fb22 2 1 5d3 1 fb24 3 1 5db 1 fb27
   2 1 5e8 2 fb50 2 1 671 0 fb52 4 1 67b 0 fb56 4 1 67e 0 fb5a 4 1 680 0 fb5e 4 1 67a 0 fb62 4 1
   67f 0 fb66 4 1 679 0 fb6a 4 1 6a4 0 fb6e 4 1 6a6 0 fb72 4 1 684 0 fb76 4 1 683 0 fb7a 4 1 686 0
   fb7e 4 1 687 0 fb82 2 1 68d 0 fb84 2 1 68c 0 fb86 2 1 68e 0 fb88 2 1 688 0 fb8a 2 1 698 0 fb8c
   2 1 691 0 fb8e 4 1 6a9 0 fb92 4 1 6af 0 fb96 4 1 6b3 0 fb9a 4 1 6b1 0 fb9e 2 1 6ba 0 fba0 4 1
   6bb 0 fba4 2 1 6c0 0 fba6 4 1 6c1 0 fbaa 4 1 6be 0 fbae 2 1 6d2 0 fbb0 2 1 6d3 0 fbd3 4 1 6ad 0
   fbd7 2 1 6c7 0 fbd9 2 1 6c6 0 fbdb 2 1 6c8 0 fbde 2 1 6cb 0 fbe0 2 1 6c5 0 fbe2 2 1 6c9 0 fbe4
   4 1 6d0 0 fbe8 2 1 649 0 fbfc 4 1 6cc 0 fe13 2 1 3a 1 fe17 2 1 3016 1 fe33 2 1 5f 0 fe35 2 1 28
   1 fe37 2 1 7b 2 fe39 2 1 3014 1 fe3b 2 1 3010 1 fe3d 2 1 300a 1 fe3f 2 1 3008 1 fe41 4 1 300c 1
   fe47 2 1 5b 2 fe4d 3 1 5f 0 fe59 2 1 28 1 fe5b 2 1 7b 2 fe5d 2 1 3014 1 fe61 2 1 2a 1 fe64 2 1
   3c 2 fe69 2 1 24 1 fe80 6 2 621 1 fe81 5 2 622 1 fe8b 3 2 626 1 fe8c 3 2 626 1 fe91 3 2 628 1
   fe92 3 2 628 1 fe97 2 1 62a 0 fe99 4 1 62b 0 fe9d 4 1 62c 0 fea1 4 1 62d 0 fea5 4 1 62e 0 fea9
   5 2 62f 1 feaa 5 2 62f 1 feb3 2 1 633 0 feb5 4 1 634 0 feb9 4 1 635 0 febd 4 1 636 0 fec1 4 1
   637 0 fec5 4 1 638 0 fec9 4 1 639 0 fecd 4 1 63a 0 fed1 4 1 641 0 fed5 4 1 642 0 fed9 4 1 643 0
   fedd 4 1 644 0 fee1 4 1 645 0 fee5 4 1 646 0 fee9 4 1 647 0 feed 3 2 648 1 feee 3 2 648 1 fef3
   2 1 64a 0 ff01 20 1 21 1 ff21 1a 1 61 1 ff3b 24 1 5b 1 ff5f 2 1 2985 1 ff62 2 1 300c 1 ff67 5 1
   30a1 2 ff6c 3 1 30e3 2 ff71 5 1 30a2 2 ff76 c 1 30ab 2 ff82 4 1 30c4 2 ff86 5 1 30cb 1 ff8f 5 1
   30de 1 ff94 3 1 30e4 2 ff97 5 1 30e9 1 ff9e 2 1 3099 1 ffa1 2 1 1100 1 ffa3 2 2 11aa 2 ffa7 3 1
   1103 1 ffaa 6 1 11b0 1 ffb1 3 1 1106 1 ffb5 a 1 1109 1 ffc2 6 1 1161 1 ffca 6 1 1167 1 ffd2 6 1
   116d 1 ffda 3 1 1173 1 ffe0 2 1 a2 1 ffe9 4 1 2190 1 10400 28 1 10428 1 104b0 24 1 104d8 1
   10570 13 2 10597 2 10571 5 2 10598 2 1057d 7 2 105a4 2 1058d 3 2 105b4 2 10781 2 1 2d0 1 10787
   2 2 2a3 2 1078b 2 1 256 1 10794 2 2 29b 1 10799 2 1 2aa 1 1079f 2 2 1df05 1 107a3 2 1 276 1
   107a8 2 1 27d 1 107ac 2 2 2a6 1 107b3 2 1 2a1 1 107b6 3 1 1c0 1 10c80 33 1 10cc0 1 10d50 16 1
   10d70 1 118a0 20 1 118c0 1 16e40 20 1 16e60 1 16ea0 19 1 16ebb 1 1ccd6 1a 1 61 1 1ccf0 a 1 30 1
   1d400 1a 1 61 1 1d41a 1a 1 61 1 1d434 1a 1 61 1 1d44e d 2 61 2 1d44f 3 2 62 2 1d457 9 2 6a 2
   1d468 1a 1 61 1 1d482 1a 1 61 1 1d49c 2 2 61 2 1d4a5 2 1 6a 1 1d4a9 4 1 6e 1 1d4ae 8 1 73 1
   1d4b6 4 1 61 1 1d4bb b 2 66 2 1d4be 3 2 69 2 1d4c6 5 2 71 2 1d4d0 1a 1 61 1 1d4ea 1a 1 61 1
   1d504 2 1 61 1 1d507 4 1 64 1 1d50d 8 1 6a 1 1d516 7 1 73 1 1d51e 1a 1 61 1 1d538 2 1 61 1
   1d53b 4 1 64 1 1d540 5 1 69 1 1d54a 7 1 73 1 1d552 1a 1 61 1 1d56c 1a 1 61 1 1d586 1a 1 61 1
   1d5a0 1a 1 61 1 1d5ba 1a 1 61 1 1d5d4 1a 1 61 1 1d5ee 1a 1 61 1 1d608 1a 1 61 1 1d622 1a 1 61 1
   1d63c 1a 1 61 1 1d656 1a 1 61 1 1d670 1a 1 61 1 1d68a 1a 1 61 1 1d6a8 11 1 3b1 1 1d6ba 7 1 3c3
   1 1d6c2 11 1 3b1 1 1d6d3 2 1 3c3 0 1d6d5 6 1 3c4 1 1d6dd 2 1 3b8 2 1d6e2 11 1 3b1 1 1d6f4 7 1
   3c3 1 1d6fc 11 1 3b1 1 1d70d 2 1 3c3 0 1d70f 6 1 3c4 1 1d717 2 1 3b8 2 1d71c 11 1 3b1 1 1d72e 7
   1 3c3 1 1d736 11 1 3b1 1 1d747 2 1 3c3 0 1d749 6 1 3c4 1 1d751 2 1 3b8 2 1d756 11 1 3b1 1 1d768
   7 1 3c3 1 1d770 11 1 3b1 1 1d781 2 1 3c3 0 1d783 6 1 3c4 1 1d78b 2 1 3b8 2 1d790 11 1 3b1 1
   1d7a2 7 1 3c3 1 1d7aa 11 1 3b1 1 1d7bb 2 1 3c3 0 1d7bd 6 1 3c4 1 1d7c5 2 1 3b8 2 1d7ca 2 1 3dd
   0 1d7ce a 1 30 1 1d7d8 a 1 30 1 1d7e2 a 1 30 1 1d7ec a 1 30 1 1d7f6 a 1 30 1 1e030 9 1 430 1
   1e039 3 1 43a 1 1e03c b 1 43e 1 1e047 2 1 44b 2 1e04c 2 1 456 2 1e051 9 1 430 1 1e05a 2 1 43a 1
   1e05c 2 1 43e 1 1e05e 2 1 441 2 1e060 5 1 444 1 1e065 2 1 44a 1 1e900 22 1 1e922 1 1ee00 2 1
   627 1 1ee0a 4 1 643 1 1ee10 2 2 641 1 1ee15 2 1 62a 1 1ee17 2 1 62e 2 1ee19 3 1 636 2 1ee2a 4 1
   643 1 1ee30 2 2 641 1 1ee35 2 1 62a 1 1ee4b 2 2 644 2 1ee6a 2 2 643 2 1ee70 2 2 641 1 1ee75 2 1
   62a 1 1ee79 3 1 636 2 1ee80 2 1 627 1 1ee84 2 1 647 1 1ee8b 3 1 644 1 1ee90 2 2 641 1 1ee95 2 1
   62a 1 1ee97 2 1 62e 2 1ee99 3 1 636 2 1eeab 3 1 644 1 1eeb0 2 2 641 1 1eeb5 2 1 62a 1 1eeb7 2 1
   62e 2 1eeb9 3 1 636 2 1f130 1a 1 61 1 1fbf0 a 1 30 1"

/-- The usual forms of other characters outside ASCII. -/
def foldings : Spellings := .ofText
  "a0: 20; a8: 20 308; aa: 61; af: 20 304; b4: 20 301, 3bc; b8: 20 327, 31, 6f; bc: 31 2044 34, 31
   2044 32, 33 2044 34; c6: e6; d0: f0; d8: f8; de: fe; 110: 111; 126: 127; 132: 69 6a, 69 6a;
   13f: 6c b7, 6c b7, 142; 149: 2bc 6e, 14b; 152: 153; 166: 167; 17f: 73; 181: 253; 186: 254, 188;
   18b: 18c; 18e: 1dd; 191: 192; 193: 260, 263; 196: 269, 268, 199; 19c: 26f, 272; 19f: 275; 1a6:
   280, 1a8; 1a9: 283; 1ac: 1ad; 1ae: 288; 1b7: 292, 1b9; 1bc: 1bd; 1c4: 64 17e, 64 17e, 64 17e,
   6c 6a, 6c 6a, 6c 6a, 6e 6a, 6e 6a, 6e 6a; 1e4: 1e5; 1f1: 64 7a, 64 7a, 64 7a; 1f6: 195, 1bf;
   21c: 21d; 220: 19e; 23a: 2c65, 23c; 23d: 19a, 2c66; 241: 242; 243: 180, 289, 28c; 2b1: 266;
   2b3: 72; 2b6: 281; 2d8: 20 306, 20 307, 20 30a, 20 328, 20 303, 20 30b; 2e0: 263, 6c, 73, 78,
   295; 345: 3b9; 376: 377; 37a: 20 3b9; 37f: 3f3; 384: 20 301; 3cf: 3d7, 3b2, 3b8, 3c5; 3d5: 3c6,
   3c0; 3f0: 3ba; 3f4: 3b8, 3b5; 3f7: 3f8; 3f9: 3c3, 3fb; 405: 455; 40f: 45f; 4c0: 4cf; 4d4: 4d5;
   4d8: 4d9; 4e0: 4e1; 4e8: 4e9; 4f6: 4f7; 587: 565 582; 675: 627 674, 648 674, 6c7 674, 64a 674;
   e33: e4d e32; eb3: ecd eb2; edc: eab e99, eab ea1; f0c: f0b; f77: fb2 f71 f80; f79: fb3 f71
   f80; 10c7: 2d27; 10cd: 2d2d; 10fc: 10dc; 1c82: 43e; 1c85: 442, 44a, 463, a64b, 1c8a; 1d2d: e6;
   1d32: 1dd; 1d3d: 223; 1d43: 61; 1d46: 1d02; 1d49: 65; 1d4c: 25c, 67; 1d51: 14b, 6f, 254; 1d56:
   70; 1d59: 1d1d, 26f, 76, 1d25; 1d62: 69, 72; 1d68: 3c1; 1d78: 43d; 1d9b: 252, 63, 255, f0, 25c,
   66; 1da3: 265; 1da7: 1d7b, 29d, 26d, 1d85, 29f; 1dad: 270; 1db2: 278; 1db5: 1ab; 1db8: 1d1c;
   1dbb: 7a; 1dbf: 3b8; 1e9a: 61 2be; 1e9e: df; 1fbd: 20 313; 1fbf: 20 313, 20 342; 1ffe: 20 314;
   2011: 2010; 2017: 20 333; 202f: 20; 2033: 2032 2032, 2032 2032 2032; 2036: 2035 2035, 2035 2035
   2035; 203c: 21 21; 203e: 20 305; 2047: 3f 3f, 3f 21, 21 3f; 2057: 2032 2032 2032 2032; 205f:
   20; 2070: 30, 69; 207a: 2b, 2212, 3d; 207f: 6e; 208a: 2b, 2212, 3d; 2090: 61, 65, 6f, 78, 259,
   68; 209a: 70; 20a8: 72 73; 2100: 61 2f 63, 61 2f 73, 63, b0 63; 2105: 63 2f 6f, 63 2f 75, 25b;
   2109: b0 66; 210f: 127; 2115: 6e, 6e 6f; 2120: 73 6d, 74 65 6c, 74 6d; 2124: 7a; 2128: 7a;
   2131: 66, 214e; 2139: 69; 213b: 66 61 78, 3c0; 213f: 3c0, 2211; 2147: 65; 2150: 31 2044 37, 31
   2044 39, 31 2044 31 30, 31 2044 33, 32 2044 33, 31 2044 35, 32 2044 35, 33 2044 35, 34 2044 35,
   31 2044 36, 35 2044 36, 31 2044 38, 33 2044 38, 35 2044 38, 37 2044 38, 31 2044, 69, 69 69, 69
   69 69, 69 76, 76, 76 69, 76 69 69, 76 69 69 69, 69 78, 78, 78 69, 78 69 69, 6c; 216f: 6d, 69,
   69 69, 69 69 69, 69 76, 76, 76 69, 76 69 69, 76 69 69 69, 69 78, 78, 78 69, 78 69 69, 6c; 217f:
   6d; 2183: 2184; 2189: 30 2044 33; 222c: 222b 222b, 222b 222b 222b; 222f: 222e 222e, 222e 222e
   222e; 2469: 31 30, 31 31, 31 32, 31 33, 31 34, 31 35, 31 36, 31 37, 31 38, 31 39, 32 30, 28 31
   29, 28 32 29, 28 33 29, 28 34 29, 28 35 29, 28 36 29, 28 37 29, 28 38 29, 28 39 29, 28 31 30
   29, 28 31 31 29, 28 31 32 29, 28 31 33 29, 28 31 34 29, 28 31 35 29, 28 31 36 29, 28 31 37 29,
   28 31 38 29, 28 31 39 29, 28 32 30 29; 249c: 28 61 29, 28 62 29, 28 63 29, 28 64 29, 28 65 29,
   28 66 29, 28 67 29, 28 68 29, 28 69 29, 28 6a 29, 28 6b 29, 28 6c 29, 28 6d 29, 28 6e 29, 28 6f
   29, 28 70 29, 28 71 29, 28 72 29, 28 73 29, 28 74 29, 28 75 29, 28 76 29, 28 77 29, 28 78 29,
   28 79 29, 28 7a 29; 24ea: 30; 2a0c: 222b 222b 222b 222b; 2a74: 3a 3a 3d, 3d 3d, 3d 3d 3d; 2c60:
   2c61; 2c62: 26b, 1d7d, 27d; 2c6d: 251, 271; 2c72: 2c73; 2c75: 2c76; 2c7c: 6a, 76; 2cf2: 2cf3;
   2d6f: 2d61; 2e9f: 6bcd; 2ef3: 9f9f; 2f00: 4e00, 4e28, 4e36, 4e3f, 4e59, 4e85, 4e8c, 4ea0, 4eba,
   513f, 5165, 516b, 5182, 5196, 51ab, 51e0, 51f5, 5200, 529b, 52f9, 5315, 531a, 5338, 5341, 535c,
   5369, 5382, 53b6, 53c8, 53e3, 56d7, 571f, 58eb, 5902, 590a, 5915, 5927, 5973, 5b50, 5b80, 5bf8,
   5c0f, 5c22, 5c38, 5c6e, 5c71, 5ddb, 5de5, 5df1, 5dfe, 5e72, 5e7a, 5e7f, 5ef4, 5efe, 5f0b, 5f13,
   5f50, 5f61, 5f73, 5fc3, 6208, 6236, 624b, 652f, 6534, 6587, 6597, 65a4, 65b9, 65e0, 65e5, 66f0,
   6708, 6728, 6b20, 6b62, 6b79, 6bb3, 6bcb, 6bd4, 6bdb, 6c0f, 6c14, 6c34, 706b, 722a, 7236, 723b,
   723f, 7247; 2f5d: 72ac, 7384, 7389, 74dc, 74e6, 7518, 751f, 7528, 7530, 758b, 7592, 7676, 767d,
   76ae, 76bf, 76ee, 77db, 77e2, 77f3, 793a, 79b8, 79be, 7a74, 7acb, 7af9, 7c73, 7cf8, 7f36, 7f51,
   7f8a, 7fbd, 8001, 800c, 8012, 8033, 807f, 8089, 81e3, 81ea, 81f3, 81fc, 820c, 821b, 821f, 826e,
   8272, 8278, 864d, 866b, 8840, 884c, 8863, 897e, 898b, 89d2, 8a00, 8c37, 8c46, 8c55, 8c78, 8c9d,
   8d64, 8d70, 8db3, 8eab, 8eca, 8f9b, 8fb0, 8fb5, 9091, 9149, 91c6, 91cc, 91d1, 9577, 9580, 961c,
   96b6, 96b9, 96e8, 9751, 975e, 9762, 9769, 97cb, 97ed, 97f3, 9801, 98a8, 98db, 98df, 9996, 9999,
   99ac, 9aa8, 9ad8, 9adf, 9b25, 9b2f, 9b32, 9b3c, 9b5a, 9ce5, 9e75, 9e7f, 9ea5, 9ebb, 9ec3, 9ecd,
   9ed1, 9ef9, 9efd, 9f0e, 9f13, 9f20, 9f3b, 9f4a, 9f52, 9f8d, 9f9c, 9fa0; 3000: 20; 3002: 2e;
   3036: 3012; 3038: 5341; 309b: 20 3099, 20 309a; 309f: 3088 308a; 30ff: 30b3 30c8; 3134: 1102;
   3136: 11ad; 3140: 111a; 3144: 1121; 316b: 11d3; 316e: 111c; 3175: 1123; 317d: 1132, 1136, 1140,
   1147, 114c; 3189: 1188; 318c: 1194, 119e, 11a1; 3192: 4e00, 4e8c; 3195: 56db; 3197: 4e2d; 3199:
   7532, 4e59, 4e19, 4e01, 5929, 5730, 4eba; 3200: 28 1100 29, 28 1102 29, 28 1103 29, 28 1105 29,
   28 1106 29, 28 1107 29, 28 1109 29, 28 110b 29, 28 110c 29, 28 110e 29, 28 110f 29, 28 1110 29,
   28 1111 29, 28 1112 29, 28 ac00 29, 28 b098 29, 28 b2e4 29, 28 b77c 29, 28 b9c8 29, 28 bc14 29,
   28 c0ac 29, 28 c544 29, 28 c790 29, 28 cc28 29, 28 ce74 29, 28 d0c0 29, 28 d30c 29, 28 d558 29,
   28 c8fc 29, 28 c624 c804 29, 28 c624 d6c4 29; 3220: 28 4e00 29, 28 4e8c 29, 28 4e09 29, 28 56db
   29, 28 4e94 29, 28 516d 29, 28 4e03 29, 28 516b 29, 28 4e5d 29, 28 5341 29, 28 6708 29, 28 706b
   29, 28 6c34 29, 28 6728 29, 28 91d1 29, 28 571f 29, 28 65e5 29, 28 682a 29, 28 6709 29, 28 793e
   29, 28 540d 29, 28 7279 29, 28 8ca1 29, 28 795d 29, 28 52b4 29, 28 4ee3 29, 28 547c 29, 28 5b66
   29, 28 76e3 29, 28 4f01 29, 28 8cc7 29, 28 5354 29, 28 796d 29, 28 4f11 29, 28 81ea 29, 28 81f3
   29, 554f, 5e7c, 6587, 7b8f; 3250: 70 74 65, 32 31, 32 32, 32 33, 32 34, 32 35, 32 36, 32 37, 32
   38, 32 39, 33 30, 33 31, 33 32, 33 33, 33 34, 33 35; 326e: ac00, b098, b2e4, b77c, b9c8, bc14,
   c0ac, c544, c790, cc28, ce74, d0c0, d30c, d558, cc38 ace0, c8fc c758, c6b0; 3280: 4e00, 4e8c,
   4e09, 56db, 4e94, 516d, 4e03, 516b, 4e5d, 5341, 6708, 706b, 6c34, 6728, 91d1, 571f, 65e5, 682a,
   6709, 793e, 540d, 7279, 8ca1, 795d, 52b4, 79d8, 7537, 5973, 9069, 512a, 5370, 6ce8, 9805, 4f11,
   5199, 6b63; 32a5: 4e2d; 32a7: 5de6, 53f3, 533b, 5b97, 5b66, 76e3, 4f01, 8cc7, 5354, 591c, 33
   36, 33 37, 33 38, 33 39, 34 30, 34 31, 34 32, 34 33, 34 34, 34 35, 34 36, 34 37, 34 38, 34 39,
   35 30, 31 6708, 32 6708, 33 6708, 34 6708, 35 6708, 36 6708, 37 6708, 38 6708, 39 6708, 31 30
   6708, 31 31 6708, 31 32 6708, 68 67, 65 72 67, 65 76, 6c 74 64; 32ea: 30d2, 30d5, 30d8, 30db;
   32ff: 4ee4 548c, 30a2 30d1 30fc 30c8, 30a2 30eb 30d5 30a1, 30a2 30f3 30da 30a2, 30a2 30fc 30eb,
   30a4 30cb 30f3 30b0, 30a4 30f3 30c1, 30a6 30a9 30f3, 30a8 30b9 30af 30fc 30c9, 30a8 30fc 30ab
   30fc, 30aa 30f3 30b9, 30aa 30fc 30e0, 30ab 30a4 30ea, 30ab 30e9 30c3 30c8, 30ab 30ed 30ea 30fc,
   30ac 30ed 30f3, 30ac 30f3 30de, 30ae 30ac, 30ae 30cb 30fc, 30ad 30e5 30ea 30fc, 30ae 30eb 30c0
   30fc, 30ad 30ed, 30ad 30ed 30b0 30e9 30e0, 30ad 30ed 30e1 30fc 30c8 30eb, 30ad 30ed 30ef 30c3
   30c8, 30b0 30e9 30e0, 30b0 30e9 30e0 30c8 30f3, 30af 30eb 30bc 30a4 30ed, 30af 30ed 30fc 30cd,
   30b1 30fc 30b9, 30b3 30eb 30ca, 30b3 30fc 30dd, 30b5 30a4 30af 30eb, 30b5 30f3 30c1 30fc 30e0,
   30b7 30ea 30f3 30b0, 30bb 30f3 30c1, 30bb 30f3 30c8, 30c0 30fc 30b9, 30c7 30b7, 30c9 30eb, 30c8
   30f3, 30ca 30ce, 30ce 30c3 30c8, 30cf 30a4 30c4, 30d1 30fc 30bb 30f3 30c8, 30d1 30fc 30c4, 30d0
   30fc 30ec 30eb, 30d4 30a2 30b9 30c8 30eb, 30d4 30af 30eb, 30d4 30b3, 30d3 30eb, 30d5 30a1 30e9
   30c3 30c9, 30d5 30a3 30fc 30c8, 30d6 30c3 30b7 30a7 30eb, 30d5 30e9 30f3, 30d8 30af 30bf 30fc
   30eb, 30da 30bd, 30da 30cb 30d2, 30d8 30eb 30c4, 30da 30f3 30b9, 30da 30fc 30b8, 30d9 30fc
   30bf, 30dd 30a4 30f3 30c8, 30dc 30eb 30c8, 30db 30f3, 30dd 30f3 30c9, 30db 30fc 30eb, 30db 30fc
   30f3, 30de 30a4 30af 30ed, 30de 30a4 30eb, 30de 30c3 30cf, 30de 30eb 30af, 30de 30f3 30b7 30e7
   30f3, 30df 30af 30ed 30f3, 30df 30ea, 30df 30ea 30d0 30fc 30eb, 30e1 30ac, 30e1 30ac 30c8 30f3,
   30e1 30fc 30c8 30eb, 30e4 30fc 30c9, 30e4 30fc 30eb, 30e6 30a2 30f3, 30ea 30c3 30c8 30eb, 30ea
   30e9, 30eb 30d4 30fc, 30eb 30fc 30d6 30eb, 30ec 30e0, 30ec 30f3 30c8 30b2 30f3, 30ef 30c3 30c8,
   30 70b9, 31 70b9, 32 70b9, 33 70b9, 34 70b9, 35 70b9, 36 70b9, 37 70b9, 38 70b9, 39 70b9, 31 30
   70b9, 31 31 70b9, 31 32 70b9, 31 33 70b9, 31 34 70b9, 31 35 70b9, 31 36 70b9, 31 37 70b9, 31 38
   70b9, 31 39 70b9, 32 30 70b9, 32 31 70b9, 32 32 70b9, 32 33 70b9, 32 34 70b9, 68 70 61, 64 61,
   61 75, 62 61 72, 6f 76, 70 63, 64 6d, 64 6d 32, 64 6d 33, 69 75, 5e73 6210, 662d 548c, 5927
   6b63, 660e 6cbb, 682a 5f0f 4f1a 793e, 70 61, 6e 61, 3bc 61, 6d 61, 6b 61, 6b 62, 6d 62, 67 62,
   63 61 6c, 6b 63 61 6c, 70 66, 6e 66, 3bc 66, 3bc 67, 6d 67, 6b 67, 68 7a, 6b 68 7a, 6d 68 7a,
   67 68 7a, 74 68 7a, 3bc 6c, 6d 6c, 64 6c, 6b 6c, 66 6d, 6e 6d, 3bc 6d, 6d 6d, 63 6d, 6b 6d, 6d
   6d 32, 63 6d 32, 6d 32, 6b 6d 32, 6d 6d 33, 63 6d 33, 6d 33, 6b 6d 33, 6d 2215 73, 6d 2215 73
   32, 70 61, 6b 70 61, 6d 70 61, 67 70 61, 72 61 64, 72 61 64 2215 73, 72 61 64 2215 73 32, 70
   73, 6e 73, 3bc 73, 6d 73, 70 76, 6e 76, 3bc 76, 6d 76, 6b 76, 6d 76, 70 77, 6e 77, 3bc 77, 6d
   77, 6b 77, 6d 77, 6b 3c9, 6d 3c9; 33c3: 62 71, 63 63, 63 64, 63 2215 6b 67; 33c8: 64 62, 67 79,
   68 61, 68 70, 69 6e, 6b 6b, 6b 6d, 6b 74, 6c 6d, 6c 6e, 6c 6f 67, 6c 78, 6d 62, 6d 69 6c, 6d 6f
   6c, 70 68; 33d9: 70 70 6d, 70 72, 73 72, 73 76, 77 62, 76 2215 6d, 61 2215 6d, 31 65e5, 32
   65e5, 33 65e5, 34 65e5, 35 65e5, 36 65e5, 37 65e5, 38 65e5, 39 65e5, 31 30 65e5, 31 31 65e5, 31
   32 65e5, 31 33 65e5, 31 34 65e5, 31 35 65e5, 31 36 65e5, 31 37 65e5, 31 38 65e5, 31 39 65e5, 32
   30 65e5, 32 31 65e5, 32 32 65e5, 32 33 65e5, 32 34 65e5, 32 35 65e5, 32 36 65e5, 32 37 65e5, 32
   38 65e5, 32 39 65e5, 33 30 65e5, 33 31 65e5, 67 61 6c; a770: a76f; a77d: 1d79; a78b: a78c;
   a78d: 265; a7aa: 266, 25c, 261, 26c, 26a; a7b0: 29e, 287, 29d, ab53; a7c4: a794, 282, 1d8e;
   a7cb: 264; a7dc: 19b; a7f1: 73, 63, 66, 71, a7f6; a7f8: 127, 153; ab5c: a727, ab37, 26b, ab52;
   ab69: 28d; fb00: 66 66, 66 69, 66 6c, 66 66 69, 66 66 6c, 73 74, 73 74; fb13: 574 576, 574 565,
   574 56b, 57e 576, 574 56d; fb20: 5e2, 5d0; fb29: 2b; fb4f: 5d0 5dc; fbdd: 6c7 674; fbea: 626
   627, 626 627, 626 6d5, 626 6d5, 626 648, 626 648, 626 6c7, 626 6c7, 626 6c6, 626 6c6, 626 6c8,
   626 6c8, 626 6d0, 626 6d0, 626 6d0, 626 649, 626 649, 626 649; fc00: 626 62c, 626 62d, 626 645,
   626 649, 626 64a, 628 62c, 628 62d, 628 62e, 628 645, 628 649, 628 64a, 62a 62c, 62a 62d, 62a
   62e, 62a 645, 62a 649, 62a 64a, 62b 62c, 62b 645, 62b 649, 62b 64a, 62c 62d, 62c 645, 62d 62c,
   62d 645, 62e 62c, 62e 62d, 62e 645, 633 62c, 633 62d, 633 62e, 633 645, 635 62d, 635 645, 636
   62c, 636 62d, 636 62e, 636 645, 637 62d, 637 645, 638 645, 639 62c, 639 645, 63a 62c, 63a 645,
   641 62c, 641 62d, 641 62e, 641 645, 641 649, 641 64a, 642 62d, 642 645, 642 649, 642 64a, 643
   627, 643 62c, 643 62d, 643 62e, 643 644, 643 645, 643 649, 643 64a, 644 62c, 644 62d, 644 62e,
   644 645, 644 649, 644 64a, 645 62c, 645 62d, 645 62e, 645 645, 645 649, 645 64a, 646 62c, 646
   62d, 646 62e, 646 645, 646 649, 646 64a, 647 62c, 647 645, 647 649, 647 64a, 64a 62c, 64a 62d,
   64a 62e, 64a 645, 64a 649, 64a 64a, 630 670, 631 670, 649 670, 20 64c 651, 20 64d 651, 20 64e
   651, 20 64f 651, 20 650 651, 20 651 670, 626 631, 626 632, 626 645, 626 646, 626 649, 626 64a,
   628 631, 628 632, 628 645, 628 646, 628 649, 628 64a, 62a 631, 62a 632, 62a 645, 62a 646, 62a
   649, 62a 64a, 62b 631, 62b 632, 62b 645, 62b 646, 62b 649, 62b 64a, 641 649, 641 64a, 642 649,
   642 64a, 643 627, 643 644, 643 645, 643 649, 643 64a, 644 645, 644 649, 644 64a, 645 627, 645
   645, 646 631, 646 632, 646 645, 646 646, 646 649, 646 64a, 649 670, 64a 631, 64a 632, 64a 645,
   64a 646, 64a 649, 64a 64a, 626 62c, 626 62d, 626 62e, 626 645, 626 647, 628 62c, 628 62d, 628
   62e, 628 645, 628 647, 62a 62c, 62a 62d, 62a 62e, 62a 645, 62a 647, 62b 645, 62c 62d, 62c 645,
   62d 62c, 62d 645, 62e 62c, 62e 645, 633 62c, 633 62d, 633 62e, 633 645, 635 62d, 635 62e, 635
   645, 636 62c, 636 62d, 636 62e, 636 645, 637 62d, 638 645, 639 62c, 639 645, 63a 62c, 63a 645,
   641 62c, 641 62d, 641 62e, 641 645, 642 62d, 642 645, 643 62c, 643 62d, 643 62e, 643 644, 643
   645, 644 62c, 644 62d, 644 62e, 644 645, 644 647, 645 62c, 645 62d, 645 62e, 645 645, 646 62c,
   646 62d, 646 62e, 646 645, 646 647, 647 62c, 647 645, 647 670, 64a 62c, 64a 62d, 64a 62e, 64a
   645, 64a 647, 626 645, 626 647, 628 645, 628 647, 62a 645, 62a 647, 62b 645, 62b 647, 633 645,
   633 647, 634 645, 634 647, 643 644, 643 645, 644 645, 646 645, 646 647, 64a 645, 64a 647, 640
   64e 651, 640 64f 651, 640 650 651, 637 649, 637 64a, 639 649, 639 64a, 63a 649, 63a 64a, 633
   649, 633 64a, 634 649, 634 64a, 62d 649, 62d 64a, 62c 649, 62c 64a, 62e 649, 62e 64a, 635 649,
   635 64a, 636 649, 636 64a, 634 62c, 634 62d, 634 62e, 634 645, 634 631, 633 631, 635 631, 636
   631, 637 649, 637 64a, 639 649, 639 64a, 63a 649, 63a 64a, 633 649, 633 64a, 634 649, 634 64a,
   62d 649, 62d 64a, 62c 649, 62c 64a, 62e 649, 62e 64a, 635 649, 635 64a, 636 649, 636 64a, 634
   62c, 634 62d, 634 62e, 634 645, 634 631, 633 631, 635 631, 636 631, 634 62c, 634 62d, 634 62e,
   634 645, 633 647, 634 647, 637 645, 633 62c, 633 62d, 633 62e, 634 62c, 634 62d, 634 62e, 637
   645, 638 645, 627 64b, 627 64b; fd50: 62a 62c 645, 62a 62d 62c, 62a 62d 62c, 62a 62d 645, 62a
   62e 645, 62a 645 62c, 62a 645 62d, 62a 645 62e, 62c 645 62d, 62c 645 62d, 62d 645 64a, 62d 645
   649, 633 62d 62c, 633 62c 62d, 633 62c 649, 633 645 62d, 633 645 62d, 633 645 62c, 633 645 645,
   633 645 645, 635 62d 62d, 635 62d 62d, 635 645 645, 634 62d 645, 634 62d 645, 634 62c 64a, 634
   645 62e, 634 645 62e, 634 645 645, 634 645 645, 636 62d 649, 636 62e 645, 636 62e 645, 637 645
   62d, 637 645 62d, 637 645 645, 637 645 64a, 639 62c 645, 639 645 645, 639 645 645, 639 645 649,
   63a 645 645, 63a 645 64a, 63a 645 649, 641 62e 645, 641 62e 645, 642 645 62d, 642 645 645, 644
   62d 645, 644 62d 64a, 644 62d 649, 644 62c 62c, 644 62c 62c, 644 62e 645, 644 62e 645, 644 645
   62d, 644 645 62d, 645 62d 62c, 645 62d 645, 645 62d 64a, 645 62c 62d, 645 62c 645, 645 62e 62c,
   645 62e 645; fd92: 645 62c 62e, 647 645 62c, 647 645 645, 646 62d 645, 646 62d 649, 646 62c
   645, 646 62c 645, 646 62c 649, 646 645 64a, 646 645 649, 64a 645 645, 64a 645 645, 628 62e 64a,
   62a 62c 64a, 62a 62c 649, 62a 62e 64a, 62a 62e 649, 62a 645 64a, 62a 645 649, 62c 645 64a, 62c
   62d 649, 62c 645 649, 633 62e 649, 635 62d 64a, 634 62d 64a, 636 62d 64a, 644 62c 64a, 644 645
   64a, 64a 62d 64a, 64a 62c 64a, 64a 645 64a, 645 645 64a, 642 645 64a, 646 62d 64a, 642 645 62d,
   644 62d 645, 639 645 64a, 643 645 64a, 646 62c 62d, 645 62e 64a, 644 62c 645, 643 645 645, 644
   62c 645, 646 62c 62d, 62c 62d 64a, 62d 62c 64a, 645 62c 64a, 641 645 64a, 628 62d 64a, 643 645
   645, 639 62c 645, 635 645 645, 633 62e 64a, 646 62c 64a; fdf0: 635 644 6d2, 642 644 6d2, 627
   644 644 647, 627 643 628 631, 645 62d 645 62f, 635 644 639 645, 631 633 648 644, 639 644 64a
   647, 648 633 644 645, 635 644 649, 635 644 649 20 627 644 644 647 20 639 644 64a 647 20 648 633
   644 645, 62c 644 20 62c 644 627 644 647, 631 6cc 627 644; fe10: 2c, 3001; fe15: 21, 3f; fe31:
   2014, 2013; fe49: 20 305, 20 305, 20 305, 20 305; fe50: 2c, 3001; fe54: 3b, 3a, 3f, 21, 2014;
   fe5f: 23, 26; fe63: 2d; fe66: 3d; fe68: 5c; fe6b: 40; fe70: 20 64b, 640 64b, 20 64c; fe74: 20
   64d; fe76: 20 64e, 640 64e, 20 64f, 640 64f, 20 650, 640 650, 20 651, 640 651, 20 652, 640 652;
   fef5: 644 622, 644 622, 644 623, 644 623, 644 625, 644 625, 644 627, 644 627; ff61: 2e; ff64:
   3001, 30fb, 30f2; ff6f: 30c3, 30fc; ff8b: 30d2, 30d5, 30d8, 30db; ff9c: 30ef, 30f3; ffa4: 1102;
   ffa6: 11ad; ffb0: 111a; ffb4: 1121; ffe2: ac, 20 304, a6, a5, 20a9; ffe8: 2502; ffed: 25a0,
   25cb; 10595: 105bc; 10783: e6, 299, 253; 10788: ab66; 1078a: 2a4; 1078d: 1d91, 258, 25e, 2a9,
   264, 262, 260; 10795: 127; 10797: 267, 284; 1079b: 26c, 1df04, a78e, 26e; 107a0: 28e; 107a2:
   f8; 107a5: 71, 27a, 1df08; 107aa: 280, 2a8; 107ad: ab67; 107af: 288, 2c71; 107b2: 28f; 107b5:
   298; 107b9: 1df0a, 1df1e; 1d49f: 64; 1d4a2: 67; 1d546: 6f; 1d6a4: 131, 237; 1d6b9: 3b8; 1d6c1:
   2207; 1d6db: 2202, 3b5; 1d6df: 3c6, 3c1, 3c0; 1d6f3: 3b8; 1d6fb: 2207; 1d715: 2202, 3b5; 1d719:
   3c6, 3c1, 3c0; 1d72d: 3b8; 1d735: 2207; 1d74f: 2202, 3b5; 1d753: 3c6, 3c1, 3c0; 1d767: 3b8;
   1d76f: 2207; 1d789: 2202, 3b5; 1d78d: 3c6, 3c1, 3c0; 1d7a1: 3b8; 1d7a9: 2207; 1d7c3: 2202, 3b5;
   1d7c7: 3c6, 3c1, 3c0; 1e049: 44e, a689, 4d9; 1e04e: 4e9, 4af, 4cf; 1e067: 491, 456, 455, 45f,
   4ab, a651, 4b1; 1ee02: 62c, 62f; 1ee05: 648, 632, 62d, 637, 64a; 1ee0e: 633, 639; 1ee11: 635;
   1ee13: 631, 634; 1ee1c: 66e, 6ba, 6a1, 66f; 1ee21: 628, 62c; 1ee24: 647; 1ee27: 62d; 1ee29:
   64a; 1ee2e: 633, 639; 1ee31: 635; 1ee34: 634; 1ee37: 62e; 1ee39: 636; 1ee3b: 63a; 1ee42: 62c;
   1ee47: 62d; 1ee49: 64a; 1ee4e: 633, 639; 1ee51: 635, 642; 1ee54: 634; 1ee57: 62e; 1ee59: 636;
   1ee5b: 63a; 1ee5d: 6ba; 1ee5f: 66f; 1ee61: 628, 62c; 1ee64: 647; 1ee67: 62d, 637, 64a; 1ee6d:
   646, 633, 639; 1ee71: 635; 1ee74: 634; 1ee77: 62e; 1ee7c: 66e; 1ee7e: 6a1; 1ee82: 62c, 62f;
   1ee86: 632, 62d, 637, 64a; 1ee8e: 633, 639; 1ee91: 635; 1ee93: 631, 634; 1eea1: 628, 62c, 62f;
   1eea5: 648, 632, 62d, 637, 64a; 1eeae: 633, 639; 1eeb1: 635; 1eeb3: 631, 634; 1f101: 30 2c, 31
   2c, 32 2c, 33 2c, 34 2c, 35 2c, 36 2c, 37 2c, 38 2c, 39 2c; 1f110: 28 61 29, 28 62 29, 28 63
   29, 28 64 29, 28 65 29, 28 66 29, 28 67 29, 28 68 29, 28 69 29, 28 6a 29, 28 6b 29, 28 6c 29,
   28 6d 29, 28 6e 29, 28 6f 29, 28 70 29, 28 71 29, 28 72 29, 28 73 29, 28 74 29, 28 75 29, 28 76
   29, 28 77 29, 28 78 29, 28 79 29, 28 7a 29, 3014 73 3015, 63, 72, 63 64, 77 7a; 1f14a: 68 76,
   6d 76, 73 64, 73 73, 70 70 76, 77 63; 1f16a: 6d 63, 6d 64, 6d 72; 1f190: 64 6a; 1f200: 307b
   304b, 30b3 30b3, 30b5; 1f210: 624b, 5b57, 53cc, 30c7, 4e8c, 591a, 89e3, 5929, 4ea4, 6620, 7121,
   6599, 524d, 5f8c, 518d, 65b0, 521d, 7d42, 751f, 8ca9, 58f0, 5439, 6f14, 6295, 6355, 4e00, 4e09,
   904a, 5de6, 4e2d, 53f3, 6307, 8d70, 6253, 7981, 7a7a, 5408, 6e80, 6709, 6708, 7533, 5272, 55b6,
   914d; 1f240: 3014 672c 3015, 3014 4e09 3015, 3014 4e8c 3015, 3014 5b89 3015, 3014 70b9 3015,
   3014 6253 3015, 3014 76d7 3015, 3014 52dd 3015, 3014 6557 3015; 1f250: 5f97, 53ef"

end TagCatalog.Text
