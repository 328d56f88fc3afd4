import Banter.Charset.Chart

/-! What GB 18030 adds to GBK. -/
namespace Banter.Charset

/-- A row holds the first and the last number of a run, and the character of the first. -/
def gb18030Pairs : List Stretch := Stretch.ofText "
a140-a17e-e4c6 a180-a1a0-e505 a240-a27e-e526 a280-a2a0-e565 a2ab-a2b0-e766 a2e3-a2e3-20ac
a2e4-a2e4-e76d a2ef-a2f0-e76e a2fd-a2fe-e770 a340-a37e-e586 a380-a3a0-e5c5 a440-a47e-e5e6
a480-a4a0-e625 a4f4-a4fe-e772 a540-a57e-e646 a580-a5a0-e685 a5f7-a5fe-e77d a640-a67e-e6a6
a680-a6a0-e6e5 a6b9-a6c0-e785 a6d9-a6df-e78d a6ec-a6ed-e794 a6f3-a6f3-e796 a6f6-a6fe-e797
a740-a77e-e706 a780-a7a0-e745 a7c2-a7d0-e7a0 a7f2-a7fe-e7af a896-a8a0-e7bc a8bc-a8bc-e7c7
a8bf-a8bf-1f9 a8c1-a8c4-e7c9 a8ea-a8fe-e7cd a958-a958-e7e2 a95b-a95b-e7e3 a95d-a95f-e7e4
a989-a989-303e a98a-a995-2ff0 a997-a9a3-e7f4 a9f0-a9fe-e801 aaa1-aafe-e000 aba1-abfe-e05e
aca1-acfe-e0bc ada1-adfe-e11a aea1-aefe-e178 afa1-affe-e1d6 d7fa-d7fe-e810 f8a1-f8fe-e234
f9a1-f9fe-e292 faa1-fafe-e2f0 fba1-fbfe-e34e fca1-fcfe-e3ac fda1-fdfe-e40a fe50-fe50-2e81
fe51-fe53-e816 fe54-fe54-2e84 fe55-fe55-3473 fe56-fe56-3447 fe57-fe57-2e88 fe58-fe58-2e8b
fe59-fe59-e81e fe5a-fe5a-359e fe5b-fe5b-361a fe5c-fe5c-360e fe5d-fe5d-2e8c fe5e-fe5e-2e97
fe5f-fe5f-396e fe60-fe60-3918 fe61-fe61-e826 fe62-fe62-39cf fe63-fe63-39df fe64-fe64-3a73
fe65-fe65-39d0 fe66-fe67-e82b fe68-fe68-3b4e fe69-fe69-3c6e fe6a-fe6a-3ce0 fe6b-fe6b-2ea7
fe6c-fe6d-e831 fe6e-fe6e-2eaa fe6f-fe6f-4056 fe70-fe70-415f fe71-fe71-2eae fe72-fe72-4337
fe73-fe73-2eb3 fe74-fe75-2eb6 fe76-fe76-e83b fe77-fe77-43b1 fe78-fe78-43ac fe79-fe79-2ebb
fe7a-fe7a-43dd fe7b-fe7b-44d6 fe7c-fe7c-4661 fe7d-fe7d-464c fe7e-fe7e-e843 fe80-fe80-4723
fe81-fe81-4729 fe82-fe82-477c fe83-fe83-478d fe84-fe84-2eca fe85-fe85-4947 fe86-fe86-497a
fe87-fe87-497d fe88-fe89-4982 fe8a-fe8b-4985 fe8c-fe8c-499f fe8d-fe8d-499b fe8e-fe8e-49b7
fe8f-fe8f-49b6 fe90-fe91-e854 fe92-fe92-4ca3 fe93-fe95-4c9f fe96-fe96-4c77 fe97-fe97-4ca2
fe98-fe9e-4d13 fe9f-fe9f-4dae fea0-fea0-e864 fea1-fefe-e468"

def gb18030Fours : List Stretch := Stretch.ofText "
0-23-80 24-25-a5 26-2c-a9 2d-31-b2 32-50-b8 51-58-d8 59-5e-e2 5f-5f-eb 60-63-ee 64-66-f4 67-67-f8
68-68-fb 69-6c-fd 6d-7d-102 7e-84-114 85-93-11c 94-ab-12c ac-ae-145 af-b2-149 b3-cf-14e d0-131-16c
132-132-1cf 133-133-1d1 134-134-1d3 135-135-1d5 136-136-1d7 137-137-1d9 138-138-1db 139-154-1dd
155-1ab-1fa 1ac-1ba-252 1bb-21f-262 220-220-2c8 221-22d-2cc 22e-2e4-2da 2e5-2e5-3a2 2e6-2ec-3aa
2ed-2ed-3c2 2ee-324-3ca 325-332-402 333-333-450 334-1ef1-452 1ef2-1ef3-2011 1ef4-1ef4-2017
1ef5-1ef6-201a 1ef7-1efd-201e 1efe-1f06-2027 1f07-1f07-2031 1f08-1f08-2034 1f09-1f0d-2036
1f0e-1f7d-203c 1f7e-1fd3-20ad 1fd4-1fd4-2104 1fd5-1fd7-2106 1fd8-1fe3-210a 1fe4-1fed-2117
1fee-202b-2122 202c-202f-216c 2030-2045-217a 2046-2047-2194 2048-20b5-219a 20b6-20bb-2209
20bc-20bc-2210 20bd-20bf-2212 20c0-20c3-2216 20c4-20c5-221b 20c6-20c7-2221 20c8-20c8-2224
20c9-20c9-2226 20ca-20cb-222c 20cc-20d0-222f 20d1-20d5-2238 20d6-20df-223e 20e0-20e2-2249
20e3-20e7-224d 20e8-20f4-2253 20f5-20f6-2262 20f7-20fc-2268 20fd-2121-2270 2122-2124-2296
2125-212f-229a 2130-2148-22a6 2149-219a-22c0 219b-22e7-2313 22e8-22f1-246a 22f2-2355-249c
2356-2359-254c 235a-2366-2574 2367-2369-2590 236a-2373-2596 2374-2383-25a2 2384-238b-25b4
238c-2393-25be 2394-2396-25c8 2397-2398-25cc 2399-23aa-25d0 23ab-23c9-25e6 23ca-23cb-2607
23cc-2401-260a 2402-2402-2641 2403-2c40-2643 2c41-2c42-2e82 2c43-2c45-2e85 2c46-2c47-2e89
2c48-2c51-2e8d 2c52-2c60-2e98 2c61-2c62-2ea8 2c63-2c65-2eab 2c66-2c69-2eaf 2c6a-2c6b-2eb4
2c6c-2c6e-2eb8 2c6f-2c7c-2ebc 2c7d-2da1-2ecb 2da2-2da5-2ffc 2da6-2da6-3004 2da7-2dab-3018
2dac-2dad-301f 2dae-2dc1-302a 2dc2-2dc3-303f 2dc4-2dca-3094 2dcb-2dcc-309f 2dcd-2dd1-30f7
2dd2-2dd7-30ff 2dd8-2ecd-312a 2ece-2ed4-322a 2ed5-2f45-3232 2f46-302f-32a4 3030-303b-3390
303c-303d-339f 303e-305f-33a2 3060-3068-33c5 3069-306a-33cf 306b-306c-33d3 306d-30dd-33d6
30de-3108-3448 3109-3232-3474 3233-32a1-359f 32a2-32ac-360f 32ad-35a9-361b 35aa-35fe-3919
35ff-365e-396f 365f-366c-39d1 366d-36ff-39e0 3700-37d9-3a74 37da-38f8-3b4f 38f9-3969-3c6f
396a-3cde-3ce1 3cdf-3de6-4057 3de7-3fbd-4160 3fbe-4031-4338 4032-4035-43ad 4036-4060-43b2
4061-4158-43de 4159-42cd-44d7 42ce-42e1-464d 42e2-43a2-4662 43a3-43a7-4724 43a8-43f9-472a
43fa-4409-477d 440a-45c2-478e 45c3-45f4-4948 45f5-45f6-497b 45f7-45fa-497e 45fb-45fb-4984
45fc-460f-4987 4610-4612-499c 4613-4628-49a0 4629-48e7-49b8 48e8-490e-4c78 490f-497d-4ca4
497e-4a11-4d1a 4a12-4a62-4daf 4a63-82bc-9fa6 82bd-82bd-e76c 82be-82be-e7c8 82bf-82cb-e7e7
82cc-82cc-e815 82cd-82d1-e819 82d2-82d8-e81f 82d9-82dc-e827 82dd-82e0-e82d 82e1-82e8-e833
82e9-82ef-e83c 82f0-82ff-e844 8300-830d-e856 830e-93d4-e865 93d5-9420-f92d 9421-943b-f97a
943c-948c-f996 948d-9495-f9e8 9496-94af-f9f2 94b0-94b0-fa10 94b1-94b1-fa12 94b2-94b4-fa15
94b5-94ba-fa19 94bb-94bb-fa22 94bc-94bd-fa25 94be-98c3-fa2a 98c4-98c4-fe32 98c5-98c8-fe45
98c9-98c9-fe53 98ca-98ca-fe58 98cb-98cb-fe67 98cc-9960-fe6c 9961-99e1-ff5f 99e2-99fb-ffe6"

end Banter.Charset
